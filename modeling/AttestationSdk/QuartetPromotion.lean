import AttestationSdk.PublishedQuartets

/-! `transaction.run` on its own: a quartet is promoted as a whole or not at all. -/
namespace AttestationSdk.Transaction
open LinkedFiles

/-- What happens in `dist` while the call runs: an event of the call, or somebody creates a file. -/
inductive Action
  | run (e : Event)
  | create (path : PurePath) (bytes : Bytes)

section Actions
variable (release : Release) (names : DestinationNames)

/-- Nobody creates anything in the staging directory while it is the call's. -/
def LeavesStaging (w : World Unit) : Action → Prop
  | .run _ => True
  | .create path _ => release.owned.under path = true → (w.runs ()).phase.live = false

end Actions

section Validator

def removeSuffix (s suffix : String) : String :=
  if suffix.toList.isSuffixOf s.toList then
    String.ofList (s.toList.take (s.toList.length - suffix.toList.length))
  else s

/-- `quartet_names`; `archiveName` is the target's, with its target and version filled in. -/
def quartetNames (archiveName : String) : List (String × String) :=
  let manifestName := removeSuffix archiveName ".tar.xz" ++ ".manifest.json"
  [("archive", archiveName), ("archive-sha256", archiveName ++ ".sha256"),
    ("manifest", manifestName), ("manifest-sha256", manifestName ++ ".sha256")]

def incompleteQuartet (targetId : String) (missing : List String) : String :=
  "incomplete quartet: " ++ targetId ++ ": missing " ++ ", ".intercalate missing

/-- `_validate_one`; `checks` is what it finds in four files that are there. -/
def validateOne {α : Type} (fs : Files) (dist : PurePath) (targetId archiveName : String)
    (checks : Except String α) : Except String α :=
  let paths := (quartetNames archiveName).map (fun entry => dist.join entry.2)
  let missing :=
    (paths.filter (fun path => !fs.isFile path || fs.isSymlink path)).map PurePath.name
  if missing.isEmpty then checks else .error (incompleteQuartet targetId missing)

end Validator

section Names
variable {release : Release} {names : DestinationNames} {archiveName : String}

theorem removeSuffix_cases (s suffix : String) :
    ∃ ending, (ending = [] ∨ ending = suffix.toList) ∧
      s.toList = (removeSuffix s suffix).toList ++ ending := by
  unfold removeSuffix
  split
  next hsuffix =>
    obtain ⟨before, hs⟩ := List.isSuffixOf_iff_suffix.mp hsuffix
    refine ⟨suffix.toList, .inr rfl, ?_⟩
    rw [String.toList_ofList, ← hs]
    simp
  · exact ⟨[], .inl rfl, (List.append_nil _).symm⟩

end Names

section Progress
variable {release : Release} {names : DestinationNames} {fs : Files} {s : RunState}

/-- The builder has had its turn, or never gets it. -/
def Phase.past : Phase → Bool
  | .entered | .probing _ _ | .beforeConstruction | .wiping | .making | .building => false
  | _ => true

/-- The operations that are left, at most, before the call waits for its builder or is over. -/
def Phase.rank : Phase → Nat
  | .entered => 20
  | .probing rest _ => 13 + rest.length
  | .beforeConstruction => 12
  | .wiping => 11
  | .making => 10
  | .gating rest => 60 + rest.length
  | .beforePromotion => 50
  | .linking _ rest => 23 + 4 * rest.length
  | .unlinking _ rest => 22 + 4 * rest.length
  | .promoted _ rest => 21 + 4 * rest.length
  | .rollingBack rest _ _ => 1 + rest.length
  | .building | .returned | .raised _ => 0

/-- The next phase is nearer to the end, and does not go back to the builder. -/
def Phase.Follows (phase phase' : Phase) : Prop :=
  phase'.rank < phase.rank ∧ (phase.past = true → phase'.past = true)

end Progress

section AllOrNothing
variable {release : Release} {names : DestinationNames} {fs : Files} {w w' : World Unit}

end AllOrNothing

section Sample

instance decidableLeavesStaging (release : Release) (w : World Unit) :
    ∀ a, Decidable (LeavesStaging release w a)
  | .run _ => isTrue trivial
  | .create path _ =>
    inferInstanceAs
      (Decidable (release.owned.under path = true → (w.runs ()).phase.live = false))

theorem noFiles_fresh (_ : PurePath) (i : Nat)
    (h : (none : Option (Entry PurePath)) = some (.file i)) : i < 0 := by
  cases h

def noFiles : Files where
  names := fun _ => none
  data := fun _ => []
  next := 0
  fresh := noFiles_fresh

def sampleRelease : Release := ⟨⟨"/", ["dist"]⟩, "linux", "1.2"⟩

theorem sampleNames_fileNames :
    (quartetNames "lib.tar.xz").all (fun entry => isFileName entry.2) = true := by
  decide +kernel

def sampleNames : DestinationNames := ⟨quartetNames "lib.tar.xz", sampleNames_fileNames⟩

def sampleSources : List (String × PurePath) :=
  (quartetNames "lib.tar.xz").map (fun entry => (entry.1, sampleRelease.owned.join entry.2))

/-- The builder writes the same bytes into all four files and returns them. -/
def sampleBuild (bytes : Bytes) : List Event :=
  sampleSources.map (fun entry => .builderWrites entry.2 bytes) ++ [.builderReturns sampleSources]

def sampleEvents : List Event :=
  List.replicate 9 .proceed ++ sampleBuild [1] ++ List.replicate 18 .proceed

end Sample

end AttestationSdk.Transaction
