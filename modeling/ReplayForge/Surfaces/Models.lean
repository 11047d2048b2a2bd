import ReplayForge.Policy.Types
import ReplayForge.Shared.Identifiers

/-!
# Surface facts

What a session reports.  The checks of each constructor are fields, so a
session can only answer with well-formed values.
-/

namespace ReplayForge

inductive ActionStatus where
  | completed
  | failed
deriving DecidableEq, Repr

structure Viewport where
  width : Nat
  height : Nat
  deviceScale : Rat := 1
  positive : 0 < width ∧ 0 < height ∧ 0 < deviceScale
deriving DecidableEq

/-- One raster frame paired with the viewport it represents. -/
structure SurfaceFrame where
  content : Bytes
  viewport : Viewport
  captured : content ≠ []

instance : DecidableEq SurfaceFrame := fun first second =>
  decidable_of_iff
    (first.content = second.content ∧ first.viewport = second.viewport) <| by
    cases first
    cases second
    simp

structure ActionableControl where
  role : String
  name : String
  count : Nat := 1
deriving DecidableEq

structure ExtractableField where
  label : String
  count : Nat := 1
deriving DecidableEq

/-- A route that `NormalizedObservation` accepts. -/
def isObservedRoute (route : String) : Bool :=
  Text.hasPrefix route "/" && !('?' ∈ route.toList) && !('#' ∈ route.toList)

structure NormalizedObservation where
  sessionId : String
  route : String
  fingerprint : String
  landmarks : List String := []
  frameTitles : List String := []
  actionableControls : List ActionableControl := []
  extractableFields : List ExtractableField := []
  /-- The texts of the visual tokens. -/
  visualTokens : List String := []
  activeElement : Option String := none
  dialogText : Option String := none
  session_valid : isEntityId .session sessionId = true
  route_valid : isObservedRoute route = true
  fingerprint_present : Text.isBlank fingerprint = false
  landmarks_present : landmarks.any Text.isBlank = false := by decide
  titles_present : frameTitles.any Text.isBlank = false := by decide
deriving DecidableEq

namespace Sample

theorem none_blank : ([] : List String).any Text.isBlank = false := by decide

/-- The payment page of a session. -/
def page (sessionId : String) (valid : isEntityId .session sessionId = true) :
    NormalizedObservation where
  sessionId := sessionId
  route := "/pay"
  fingerprint := "page"
  session_valid := valid
  route_valid := by decide
  fingerprint_present := by decide
  landmarks_present := none_blank
  titles_present := none_blank

end Sample

structure ResolvedTarget where
  handle : String
  description : String
  candidateIndex : Nat
  registeredRisk : Option Risk := none
  /-- The target was grounded in a rendered frame. -/
  visual : Bool := false
  described : Text.isBlank handle = false ∧ Text.isBlank description = false
deriving DecidableEq

structure ActionReceipt where
  status : ActionStatus
  errorCode : Option String := none
  /-- Exactly the failed receipts carry an error code. -/
  code_iff : errorCode.isSome = true ↔ status = .failed
  code_present : errorCode ≠ some ""
deriving DecidableEq

def ActionReceipt.completed : ActionReceipt where
  status := .completed
  code_iff := by decide
  code_present := by decide

/-- The PNG signature. -/
def pngSignature : Bytes :=
  [0x89, 0x50, 0x4E, 0x47, 0x0D, 0x0A, 0x1A, 0x0A]

def maxAttachmentBytes : Nat := 20000000

/-- `RawScreenshot(content)` -/
def rawScreenshot (content : Bytes) : Except Raised Bytes := do
  require (pngSignature.isPrefixOf content)
    "raw screenshot must contain PNG content"
  require (content.length ≤ maxAttachmentBytes)
    "raw screenshot exceeds the storage limit"
  pure content

end ReplayForge
