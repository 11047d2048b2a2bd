import ReplayForge.Servicing.Changes
import Mathlib.Algebra.BigOperators.Group.List.Basic
import Mathlib.Tactic.Tauto

/-!
# The ledger over whole sessions

`Sound` is kept by every change of the bank: accounts stay distinct, no hold
is negative, every deposit account covers its active holds, and references are
numbered up to the revision.  A change also keeps the total of all deposits.
-/

namespace ReplayForge.Servicing

/-- The opening balances and posted amounts of all deposit accounts. -/
def totalDeposits (bank : Bank) : Int :=
  ((bank.accounts.filter Account.isDeposit).map fun account =>
    account.openingCents + postedCents bank account.id).sum

/-- Every reference that a record of the bank carries. -/
def usedReferences (bank : Bank) : List String :=
  bank.journal.map AuditEntry.reference ++
    bank.completed.map (fun entry => entry.2.receipt.reference) ++
    bank.postings.map Posting.reference ++ bank.holds.map Hold.id ++
    bank.cases.map ServiceCase.id

structure Sound (bank : Bank) : Prop where
  distinct : (bank.accounts.map Account.id).Nodup
  holds : ∀ hold ∈ bank.holds, 0 ≤ hold.cents
  covered : ∀ account ∈ bank.accounts, account.isDeposit →
    heldCents bank account.id ≤
      account.openingCents + postedCents bank account.id
  numbered : ∀ number, referenceOf bank.tenant number ∈ usedReferences bank →
    number ≤ bank.revision

/-! ## Sums -/

section Sums

theorem sum_map_modify_le {α : Type} (weight : α → Int) (change : α → α)
    {items : List α} (shrinks : ∀ item ∈ items, weight (change item) ≤ weight item)
    (index : Nat) :
    ((items.modify index change).map weight).sum ≤ (items.map weight).sum := by
  induction items generalizing index with
  | nil => simp
  | cons item rest ih =>
      have first := shrinks item (by simp)
      cases index with
      | zero =>
          simp only [List.modify_zero_cons, List.map_cons, List.sum_cons]
          omega
      | succ index =>
          have others := ih (fun other member =>
            shrinks other (List.mem_cons_of_mem item member)) index
          simp only [List.modify_succ_cons, List.map_cons, List.sum_cons]
          omega

theorem map_modify {α β : Type} (read : α → β) (change : α → α)
    (kept : ∀ item, read (change item) = read item) (items : List α)
    (index : Nat) : (items.modify index change).map read = items.map read := by
  induction items generalizing index with
  | nil => simp
  | cons item rest ih => cases index <;> simp [kept, ih]

theorem mem_modify {α : Type} {change : α → α} {items : List α} {index : Nat}
    {item : α} (member : item ∈ items.modify index change) :
    item ∈ items ∨ ∃ old ∈ items, item = change old := by
  induction items generalizing index with
  | nil => simp at member
  | cons first rest ih =>
      cases index with
      | zero =>
          rw [List.modify_zero_cons, List.mem_cons] at member
          rcases member with same | later
          · exact .inr ⟨first, by simp, same⟩
          · exact .inl (List.mem_cons_of_mem _ later)
      | succ index =>
          rw [List.modify_succ_cons, List.mem_cons] at member
          rcases member with same | later
          · exact .inl (by simp [same])
          · rcases ih later with kept | ⟨old, present, same⟩
            · exact .inl (List.mem_cons_of_mem _ kept)
            · exact .inr ⟨old, List.mem_cons_of_mem _ present, same⟩

/-- One account receives an amount once. -/
theorem sum_at_account {accounts : List Account}
    (distinct : (accounts.map Account.id).Nodup) {chosen : Account}
    (member : chosen ∈ accounts) (cents : Int) :
    (accounts.map fun account =>
      if account.id = chosen.id then cents else 0).sum = cents := by
  induction accounts with
  | nil => simp at member
  | cons account rest ih =>
      rw [List.map_cons, List.nodup_cons] at distinct
      rw [List.map_cons, List.sum_cons]
      rcases List.mem_cons.mp member with same | later
      · subst same
        have others : ∀ other ∈ rest, other.id ≠ chosen.id := by
          intro other present equal
          exact distinct.1 (List.mem_map.mpr ⟨other, present, equal⟩)
        have none : (rest.map fun account =>
            if account.id = chosen.id then cents else 0) =
              rest.map fun _ => 0 := by
          apply List.map_congr_left
          intro other present
          simp [others other present]
        simp [none]
      · have different : account.id ≠ chosen.id := by
          intro equal
          exact distinct.1 (List.mem_map.mpr ⟨chosen, later, equal.symm⟩)
        simp [different, ih distinct.2 later]

end Sums

/-! ## Balances after a change -/

/-- What a posting adds to an account. -/
def Posting.amountFor (posting : Posting) (id : String) : Int :=
  if posting.accountId = id ∧ posting.status = .posted then posting.cents else 0

/-- What a hold withholds from an account. -/
def Hold.amountFor (hold : Hold) (id : String) : Int :=
  if hold.accountId = id ∧ hold.status = .active then hold.cents else 0

theorem sum_filter_map {α : Type} (test : α → Bool) (value : α → Int)
    (items : List α) :
    ((items.filter test).map value).sum =
      (items.map fun item => if test item then value item else 0).sum := by
  induction items with
  | nil => rfl
  | cons item rest ih =>
      by_cases passes : test item <;> simp [passes, ih]

theorem postedCents_eq (bank : Bank) (id : String) :
    postedCents bank id =
      (bank.postings.map fun posting => posting.amountFor id).sum := by
  rw [postedCents, sum_filter_map]
  simp [Posting.amountFor]

theorem heldCents_eq (bank : Bank) (id : String) :
    heldCents bank id = (bank.holds.map fun hold => hold.amountFor id).sum := by
  rw [heldCents, sum_filter_map]
  simp [Hold.amountFor]

theorem available_eq {bank : Bank}
    (distinct : (bank.accounts.map Account.id).Nodup) {account : Account}
    (member : account ∈ bank.accounts) :
    available bank account.id = .ok (account.openingCents +
      postedCents bank account.id - heldCents bank account.id) := by
  have found : bank.accounts.find? (fun item => item.id = account.id) =
      some account := by
    generalize bank.accounts = accounts at distinct member
    induction accounts with
    | nil => simp at member
    | cons first rest ih =>
        rw [List.map_cons, List.nodup_cons] at distinct
        rcases List.mem_cons.mp member with same | later
        · simp [same]
        · have different : first.id ≠ account.id := by
            intro equal
            exact distinct.1 (List.mem_map.mpr ⟨account, later, equal.symm⟩)
          simp [different, ih distinct.2 later]
  simp [available, ledger, found, requireFound, bind, Except.bind, pure,
    Except.pure]

theorem eq_of_id {accounts : List Account}
    (distinct : (accounts.map Account.id).Nodup) {first second : Account}
    (here : first ∈ accounts) (there : second ∈ accounts)
    (same : first.id = second.id) : first = second :=
  List.inj_on_of_nodup_map distinct here there same

/-! ## One change -/

namespace Change

variable {bank next : Bank} {reference : String}

theorem tenant_eq (change : Change bank reference next) :
    next.tenant = bank.tenant := by
  cases change <;> rfl

theorem revision_eq (change : Change bank reference next) :
    next.revision = bank.revision := by
  cases change <;> rfl

theorem accounts_eq (change : Change bank reference next) :
    next.accounts = bank.accounts := by
  cases change <;> rfl

theorem completed_eq (change : Change bank reference next) :
    next.completed = bank.completed := by
  cases change <;> rfl

theorem journal_eq (change : Change bank reference next) :
    next.journal = bank.journal := by
  cases change <;> rfl

/-- The two postings of a transfer move its amount between two accounts. -/
theorem postedCents_transfer {source target : Account} {cents : Int}
    {debit credit : Posting}
    (debited : debit.accountId = source.id ∧ debit.cents = -cents ∧
      debit.status = .posted ∧ debit.reference = reference)
    (credited : credit.accountId = target.id ∧ credit.cents = cents ∧
      credit.status = .posted ∧ credit.reference = reference) (id : String) :
    postedCents { bank with postings := bank.postings ++ [debit, credit] } id =
      postedCents bank id + (if id = source.id then -cents else 0) +
        (if id = target.id then cents else 0) := by
  rw [postedCents_eq, postedCents_eq]
  simp only [List.map_append, List.sum_append, List.map_cons, List.map_nil,
    List.sum_cons, List.sum_nil, Posting.amountFor, debited.1, debited.2.1,
    debited.2.2.1, credited.1, credited.2.1, credited.2.2.1, and_true,
    eq_comm (b := id)]
  omega

theorem heldCents_le_append {hold : Hold} (natural : 0 ≤ hold.cents)
    (id : String) :
    heldCents { bank with holds := bank.holds ++ [hold] } id ≤
      heldCents bank id + if id = hold.accountId then hold.cents else 0 := by
  rw [heldCents_eq, heldCents_eq]
  simp only [List.map_append, List.sum_append, List.map_cons, List.map_nil,
    List.sum_cons, List.sum_nil, Hold.amountFor]
  by_cases same : id = hold.accountId
  · by_cases active : hold.status = .active <;> simp [same, active] <;> omega
  · have other : ¬ hold.accountId = id := fun equal => same equal.symm
    simp [same, other]

theorem heldCents_release_le (sound : ∀ hold ∈ bank.holds, 0 ≤ hold.cents)
    (test : Hold → Bool) (id : String) :
    heldCents { bank with
      holds := changeFirst test (fun hold => { hold with status := .released })
        bank.holds } id ≤ heldCents bank id := by
  rw [heldCents_eq, heldCents_eq]
  apply sum_map_modify_le (fun hold : Hold => hold.amountFor id)
  intro hold member
  have natural := sound hold member
  by_cases counted : hold.accountId = id ∧ hold.status = .active <;>
    simp [Hold.amountFor, counted, natural]

theorem total_eq (change : Change bank reference next)
    (distinct : (bank.accounts.map Account.id).Nodup) :
    totalDeposits next = totalDeposits bank := by
  cases change with
  | @transfer source target cents funds debit credit here there fromDeposit
      toDeposit _ _ _ _ debited credited =>
      have deposits : ((bank.accounts.filter Account.isDeposit).map
          Account.id).Nodup :=
        distinct.sublist (List.Sublist.map _ List.filter_sublist)
      have paid := sum_at_account deposits
        (List.mem_filter.mpr ⟨here, fromDeposit⟩) (-cents)
      have received := sum_at_account deposits
        (List.mem_filter.mpr ⟨there, toDeposit⟩) cents
      simp only [totalDeposits, postedCents_transfer debited credited]
      rw [show (fun account : Account => account.openingCents +
          (postedCents bank account.id +
            (if account.id = source.id then -cents else 0) +
            if account.id = target.id then cents else 0)) =
          fun account => (account.openingCents + postedCents bank account.id +
            if account.id = source.id then -cents else 0) +
            if account.id = target.id then cents else 0 from by
        funext account
        omega]
      rw [List.sum_map_add, List.sum_map_add, paid, received]
      omega
  | cards | hold _ _ _ _ _ _ _ | release _ | quote | opened _ | resolved _ _ =>
      rfl

theorem holds_natural (change : Change bank reference next)
    (sound : ∀ hold ∈ bank.holds, 0 ≤ hold.cents) :
    ∀ hold ∈ next.holds, 0 ≤ hold.cents := by
  cases change with
  | hold _ _ _ positive _ _ _ =>
      intro item member
      rcases List.mem_append.mp member with old | new
      · exact sound item old
      · rw [List.mem_singleton.mp new]
        omega
  | release test =>
      intro item member
      rcases mem_modify member with old | ⟨before, old, same⟩
      · exact sound item old
      · rw [same]
        exact sound before old
  | transfer _ _ _ _ _ _ _ _ _ _ | cards | quote | opened _ | resolved _ _ =>
      exact sound

/-- Every deposit account still covers its active holds. -/
theorem covered (change : Change bank reference next) (sound : Sound bank) :
    ∀ account ∈ next.accounts, account.isDeposit →
      heldCents next account.id ≤
        account.openingCents + postedCents next account.id := by
  cases change with
  | @transfer source target cents funds debit credit here there _ _ different
      positive counted enough debited credited =>
      intro account member deposit
      have before := sound.covered account member deposit
      rw [available_eq sound.distinct here, Except.ok.injEq] at counted
      rw [postedCents_transfer debited credited]
      change heldCents bank account.id ≤ _
      by_cases paying : account.id = source.id
      · have same := eq_of_id sound.distinct member here paying
        subst same
        simp only [if_true, different, if_false]
        omega
      · simp only [paying, if_false]
        split <;> omega
  | @hold owner funds hold here _ counted positive enough owned _ =>
      intro account member deposit
      have before := sound.covered account member deposit
      have after := @heldCents_le_append bank hold (by omega) account.id
      rw [available_eq sound.distinct here, Except.ok.injEq] at counted
      change _ ≤ account.openingCents + postedCents bank account.id
      by_cases withheld : account.id = hold.accountId
      · have same := eq_of_id sound.distinct member here (withheld.trans owned)
        subst same
        simp only [withheld, if_true] at after
        rw [withheld] at counted ⊢
        omega
      · simp only [withheld, if_false] at after
        omega
  | release test =>
      intro account member deposit
      have before := sound.covered account member deposit
      have after := heldCents_release_le sound.holds test account.id
      exact after.trans before
  | cards | quote | opened _ | resolved _ _ => exact sound.covered

/-- A change adds no reference but its own. -/
theorem references (change : Change bank reference next) :
    ∀ used ∈ usedReferences next,
      used ∈ usedReferences bank ∨ used = reference := by
  intro used member
  simp only [usedReferences, List.mem_append] at member ⊢
  rw [change.journal_eq, change.completed_eq] at member
  cases change with
  | transfer _ _ _ _ _ _ _ _ debited credited =>
      simp only [List.map_append, List.mem_append, List.map_cons, List.map_nil,
        List.mem_cons, List.not_mem_nil, or_false, debited.2.2.2,
        credited.2.2.2, or_self] at member
      tauto
  | hold _ _ _ _ _ _ named =>
      simp only [List.map_append, List.mem_append, List.map_cons, List.map_nil,
        List.mem_singleton, named] at member
      tauto
  | opened named =>
      simp only [List.map_append, List.mem_append, List.map_cons, List.map_nil,
        List.mem_singleton, named] at member
      tauto
  | release test =>
      have same := map_modify Hold.id
        (fun hold : Hold => { hold with status := .released }) (fun _ => rfl)
        bank.holds (bank.holds.findIdx test)
      simp only [changeFirst, same] at member
      exact .inl member
  | resolved test kept =>
      simp only [changeFirst] at member
      rw [map_modify ServiceCase.id _ kept] at member
      exact .inl member
  | cards | quote => exact .inl member

end Change

/-! ## References -/

theorem referenceOf_injective (tenant : Tenant) :
    Function.Injective (referenceOf tenant) := by
  intro first second same
  simp only [referenceOf, String.append_right_inj] at same
  exact padStart_injective 6 same

theorem head_referenceOf (tenant : Tenant) (number : Nat) :
    (referenceOf tenant number).toList.head? = some 'H' ∨
      (referenceOf tenant number).toList.head? = some 'S' := by
  cases tenant
  · left
    simp [referenceOf, String.toList_append]
  · right
    simp [referenceOf, String.toList_append]

/-! ## One call -/

section Call

variable {bank next : Bank} {command : Command} {key : String}
  {expectedRevision : Int} {receipt : Receipt}

/-- A new command is recorded over a change of the bank. -/
theorem recorded_of_new
    (done : execute bank command key expectedRevision = .ok (next, receipt))
    (new : bank.completed.get? key = none) :
    ∃ performed,
      perform bank (referenceOf bank.tenant (bank.revision + 1)) command =
        .ok performed ∧
      Change bank (referenceOf bank.tenant (bank.revision + 1))
        performed.next ∧
      (next, receipt) = recorded bank command key
        (referenceOf bank.tenant (bank.revision + 1)) performed := by
  obtain ⟨_, _, ⟨completed, found, _⟩ | ⟨_, _, performed, result, same⟩⟩ :=
    execute_cases done
  · rw [new] at found
    cases found
  · exact ⟨performed, result, perform_change result, same⟩

theorem mem_set_values {β : Type} {dict : Dict β} {name : String} {value : β}
    {entry : String × β} (member : entry ∈ dict.set name value) :
    entry ∈ dict ∨ entry.2 = value := by
  induction dict with
  | nil =>
      simp only [Dict.set, List.mem_singleton] at member
      exact .inr (by rw [member])
  | cons first rest ih =>
      obtain ⟨stored, old⟩ := first
      rw [Dict.set] at member
      split at member
      · rcases List.mem_cons.mp member with same | later
        · exact .inr (by rw [same])
        · exact .inl (List.mem_cons_of_mem _ later)
      · rcases List.mem_cons.mp member with same | later
        · exact .inl (by simp [same])
        · exact (ih later).imp (List.mem_cons_of_mem _) id

/-- What is recorded adds no reference but the receipt's. -/
theorem usedReferences_recorded {reference : String} {performed : Performed} :
    ∀ used ∈ usedReferences (recorded bank command key reference performed).1,
      used ∈ usedReferences performed.next ∨ used = reference := by
  intro used member
  simp only [usedReferences, recorded, List.mem_append, List.map_append,
    List.map_cons, List.map_nil, List.mem_singleton] at member ⊢
  have completed : used ∈ (performed.next.completed.set key
      { fingerprint := command.fingerprint
        receipt := {
          reference
          title := performed.title
          details := ("Member ID", command.memberId) :: performed.details ++
            [("Business date", bank.businessDate)] } }).map
        (fun entry => entry.2.receipt.reference) →
      used ∈ performed.next.completed.map
        (fun entry => entry.2.receipt.reference) ∨ used = reference := by
    intro listed
    obtain ⟨entry, stored, same⟩ := List.mem_map.mp listed
    rcases mem_set_values stored with old | new
    · exact .inl (List.mem_map.mpr ⟨entry, old, same⟩)
    · exact .inr (by rw [← same, new])
  tauto

/-- A recorded change keeps the bank sound. -/
theorem Sound.recorded {performed : Performed} (sound : Sound bank)
    (change : Change bank (referenceOf bank.tenant (bank.revision + 1))
      performed.next) :
    Sound (recorded bank command key
      (referenceOf bank.tenant (bank.revision + 1)) performed).1 where
  distinct := by
    change (performed.next.accounts.map Account.id).Nodup
    rw [change.accounts_eq]
    exact sound.distinct
  holds := change.holds_natural sound.holds
  covered := change.covered sound
  numbered := by
    intro number listed
    change referenceOf performed.next.tenant number ∈ _ at listed
    change number ≤ performed.next.revision + 1
    rw [change.tenant_eq] at listed
    rw [change.revision_eq]
    have numbered : referenceOf bank.tenant number ∈ usedReferences bank ∨
        referenceOf bank.tenant number =
          referenceOf bank.tenant (bank.revision + 1) := by
      rcases usedReferences_recorded _ listed with old | own
      · exact change.references _ old
      · exact .inr own
    rcases numbered with old | own
    · exact (sound.numbered number old).trans (Nat.le_succ _)
    · exact (referenceOf_injective bank.tenant own).le

end Call

theorem Sound.setRole {bank : Bank} (sound : Sound bank) (role : Role) :
    Sound { bank with role } :=
  ⟨sound.distinct, sound.holds, sound.covered, sound.numbered⟩

theorem Sound.execute {bank next : Bank} {command : Command} {key : String}
    {expectedRevision : Int} {receipt : Receipt} (sound : Sound bank)
    (done : execute bank command key expectedRevision = .ok (next, receipt)) :
    Sound next := by
  cases found : bank.completed.get? key with
  | some completed =>
      obtain ⟨_, _, ⟨_, _, _, same, _⟩ | ⟨new, _⟩⟩ := execute_cases done
      · exact same ▸ sound
      · rw [found] at new
        cases new
  | none =>
      obtain ⟨performed, _, change, same⟩ := recorded_of_new done found
      have next_eq := congrArg Prod.fst same
      simp only at next_eq
      rw [next_eq]
      exact sound.recorded change

theorem sound_createBank (tenant : Tenant) : Sound (createBank tenant) where
  distinct := by cases tenant <;> decide +kernel
  holds := by cases tenant <;> decide +kernel
  covered := by cases tenant <;> decide +kernel
  numbered := by
    intro number listed
    have foreign : ∀ used ∈ usedReferences (createBank tenant),
        used.toList.head? ≠ some 'H' ∧ used.toList.head? ≠ some 'S' := by
      cases tenant <;> decide +kernel
    have heads := foreign _ listed
    rcases head_referenceOf (createBank tenant).tenant number with harbor | summit
    · exact absurd harbor heads.1
    · exact absurd summit heads.2

end ReplayForge.Servicing
