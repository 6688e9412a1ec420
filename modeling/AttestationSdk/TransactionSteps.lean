import AttestationSdk.ReleaseTransaction
import Mathlib.Data.List.Infix

/-! What one step of `transaction.run` does to the call and to the file system. -/
namespace AttestationSdk.Transaction
open LinkedFiles

theorem under_iff {d p : PurePath} :
    d.under p = true ↔ d.root = p.root ∧ d.parts <+: p.parts := by
  simp [PurePath.under]

theorem inside_iff {d p : PurePath} : d.inside p = true ↔ d.under p = true ∧ p ≠ d := by
  simp [PurePath.inside]

theorem under_of_inside {d p : PurePath} (h : d.inside p = true) : d.under p = true :=
  (inside_iff.mp h).1

theorem under_trans {d p q : PurePath} (hp : d.under p = true) (hq : p.under q = true) :
    d.under q = true := by
  rw [under_iff] at hp hq ⊢
  exact ⟨hp.1.trans hq.1, hp.2.trans hq.2⟩

theorem join_fileName {s : String} (h : isFileName s = true) (base : PurePath) :
    base.join s = ⟨base.root, base.parts ++ [s]⟩ := by
  have hparse : PurePath.parse s = ⟨"", [s]⟩ := by
    simp only [isFileName, Bool.and_eq_true, beq_iff_eq] at h
    exact h.1
  rw [PurePath.join, hparse, if_pos rfl]

theorem mem_of_lookup {α : Type} {d : List (String × α)} {key : String} {a : α}
    (h : d.lookup key = some a) : (key, a) ∈ d := by
  obtain ⟨before, after, hd, _⟩ := List.lookup_eq_some_iff.mp h
  rw [hd]
  exact List.mem_append_right before List.mem_cons_self

theorem key_mem_quartetOrder (key : Key) : key ∈ quartetOrder := by
  cases key <;> decide

theorem lookup_of_isQuartet {α : Type} {d : List (String × α)} (h : isQuartet d = true)
    (key : Key) : ∃ a, d.lookup key.str = some a := by
  simp only [isQuartet, Bool.and_eq_true, List.all_eq_true, List.contains_iff_mem] at h
  have hkey := h.2 key.str (List.mem_map_of_mem (key_mem_quartetOrder key))
  obtain ⟨entry, hentry, hfst⟩ := List.mem_map.mp hkey
  exact Option.isSome_iff_exists.mp
    (List.lookup_isSome_iff.mpr ⟨entry, hentry, beq_iff_eq.mpr hfst.symm⟩)

section Paths
variable {release : Release} (names : DestinationNames)

theorem destination_eq (release : Release) (key : Key) :
    ∃ part : List String, part.length ≤ 1 ∧
      release.destination names key = ⟨release.dist.root, release.dist.parts ++ part⟩ := by
  rw [Release.destination]
  cases hname : names.entries.lookup key.str with
  | none => exact ⟨[], Nat.zero_le 1, rfl⟩
  | some name =>
    have hfile := List.all_eq_true.mp names.fileNames _ (mem_of_lookup hname)
    exact ⟨[name], Nat.le_refl 1, join_fileName hfile release.dist⟩

theorem stagingRoot_eq :
    release.stagingRoot = ⟨release.dist.root, release.dist.parts ++ [".staging"]⟩ :=
  join_fileName (by decide +kernel) release.dist

/-- The owned directory that passes the check lies two levels under `dist`. -/
theorem owned_length (hsafe : release.safeOwned = true) :
    release.owned.parts.length = release.dist.parts.length + 2 := by
  simp only [Release.safeOwned, Bool.and_eq_true, beq_iff_eq] at hsafe
  have hparts := congrArg (fun p => p.parts.length) hsafe.1
  simp only [PurePath.parent, stagingRoot_eq, List.length_dropLast, List.length_append,
    List.length_singleton] at hparts
  omega

theorem not_under_of_length {d p : PurePath} (h : p.parts.length < d.parts.length) :
    d.under p = false := by
  rw [Bool.eq_false_iff, ne_eq, under_iff]
  exact fun hunder => absurd hunder.2.length_le (by omega)

theorem destination_not_under (hsafe : release.safeOwned = true) (key : Key) :
    release.owned.under (release.destination names key) = false := by
  have hlength := owned_length hsafe
  cases destination_eq names release key with
  | intro part h =>
    refine not_under_of_length ?_
    rw [h.2, List.length_append]
    omega

/-- Not in the staging directory. A path that fails its check is no staging directory. -/
def Release.Outside (release : Release) (p : PurePath) : Prop :=
  release.safeOwned = true → release.owned.under p = false

theorem destination_outside (release : Release) (names : DestinationNames) (key : Key) :
    release.Outside (release.destination names key) :=
  fun hsafe => destination_not_under names hsafe key

end Paths

/-- The owned path has passed its check. -/
def Phase.checked : Phase → Bool
  | .entered | .probing _ _ | .beforeConstruction | .raised _ => false
  | _ => true

/-- The builder has returned and the rollback has not begun. -/
def Phase.built : Phase → Bool
  | .gating _ | .beforePromotion | .linking _ _ | .unlinking _ _ | .promoted _ _ => true
  | _ => false

/-- The call stands between the creation of its staging directory and its last link. -/
def Phase.live : Phase → Bool
  | .building | .gating _ | .beforePromotion | .linking _ _ => true
  | .unlinking _ rest | .promoted _ rest => !rest.isEmpty
  | _ => false

section Effects
variable (release : Release) (names : DestinationNames)

/-- What the call has promoted, phase by phase. -/
def Tidy (s : RunState) : Prop :=
  match s.phase with
  | .linking key rest =>
    s.held ++ key :: rest = quartetOrder ∧ s.moved = s.held.map (release.destination names)
  | .unlinking _ rest | .promoted _ rest =>
    s.held ++ rest = quartetOrder ∧ s.moved = s.held.map (release.destination names)
  | .rollingBack rest _ _ =>
    rest = (s.held.map (release.destination names)).reverse ∧ s.held <+: quartetOrder
  | .returned => s.held = quartetOrder
  | .raised _ => s.held = []
  | _ => s.held = [] ∧ s.moved = []

/-- What an event does to a call and to the file system. -/
inductive Effect (fs : Files) (s : RunState) : Event → RunState → Files → Prop
  | quiet {e : Event} (phase : Phase)
      (htidy : Tidy release names s → Tidy release names { s with phase })
      (hlive : phase.live = true → s.phase.live = true)
      (hbuilt : phase.built = true → s.phase.built = true)
      (hchecked : phase.checked = true → s.phase.checked = true ∨ release.safeOwned = true)
      (hbuilding : phase ≠ .building) : Effect fs s e { s with phase } fs
  | wiped (hphase : s.phase = .wiping) (hthere : fs.names release.owned = some .directory) :
      Effect fs s .proceed { s with phase := .making } (fs.removeAll release.owned.under)
  | made {e : Event} (hphase : s.phase = .making) (hfree : fs.names release.owned = none) :
      Effect fs s e { s with phase := .building }
        ((fs.removeAll release.owned.inside).addDirectories (madeDirectory release fs))
  | wrote {e : Event} (path : PurePath) (bytes : Bytes) (fs' : Files)
      (hphase : s.phase = .building) (hpath : release.owned.inside path = true)
      (hwrite : fs.write path bytes = some fs') :
      Effect fs s e { s with wrote := Function.update s.wrote path (some bytes) } fs'
  | madeDirectory {e : Event} (path : PurePath) (hphase : s.phase = .building)
      (hpath : release.owned.inside path = true) :
      Effect fs s e s (fs.addDirectories (fun p => p == path))
  | removed {e : Event} (path : PurePath) (hphase : s.phase = .building)
      (hpath : release.owned.inside path = true) : Effect fs s e s (fs.removeAll path.under)
  | built {e : Event} (sources : Key → PurePath) (hphase : s.phase = .building)
      (hsources : ∀ key, release.owned.inside (sources key) = true) :
      Effect fs s e { s with phase := .gating quartetOrder, sources } fs
  | linked {e : Event} (key : Key) (rest : List Key) (hphase : s.phase = .linking key rest)
      (hsource : fs.content (s.sources key) ≠ none ∧ fs.content (s.sources key) ≠ some .directory)
      (hfree : fs.names (release.destination names key) = none) :
      Effect fs s e
        { s with
          phase := .unlinking key rest
          moved := s.moved ++ [release.destination names key]
          held := s.held ++ [key] }
        (fs.copyName (s.sources key) (release.destination names key))
  | unlinked {e : Event} (key : Key) (rest : List Key) (hphase : s.phase = .unlinking key rest) :
      Effect fs s e { s with phase := .promoted key rest } (fs.removeName (s.sources key))
  | tookBack {e : Event} (destination last : PurePath) (rest : List PurePath) (error : Exception)
      (hphase : s.phase = .rollingBack (destination :: rest) last error) :
      Effect fs s e
        { s with phase := .rollingBack rest destination error, held := s.held.dropLast }
        (takeBack release names fs destination)

/-- Nothing is promoted yet and nothing has been raised. -/
def Phase.early : Phase → Bool
  | .entered | .probing _ _ | .beforeConstruction | .wiping | .making => true
  | .building | .gating _ | .beforePromotion => true
  | _ => false

variable {release names} {fs fs' : Files} {s s' : RunState}

theorem tidy_early (h : s.phase.early = true) :
    Tidy release names s ↔ s.held = [] ∧ s.moved = [] := by
  unfold Tidy
  cases hphase : s.phase <;> simp [hphase, Phase.early] at h <;> exact Iff.rfl

theorem early_effect (e : Event) {phase : Phase} (h : s.phase.early = true)
    (hphase : phase.early = true) (hlive : phase.live = true → s.phase.live = true)
    (hbuilt : phase.built = true → s.phase.built = true)
    (hchecked : phase.checked = true → s.phase.checked = true ∨ release.safeOwned = true)
    (hbuilding : phase ≠ .building) : Effect release names fs s e { s with phase } fs :=
  .quiet phase (fun htidy => (tidy_early hphase).mpr ((tidy_early h).mp htidy)) hlive hbuilt
    hchecked hbuilding

theorem raised_effect (e : Event) (error : Exception) (h : s.phase.early = true) :
    Effect release names fs s e { s with phase := .raised error } fs :=
  .quiet _ (fun htidy => ((tidy_early h).mp htidy).1) (fun h => by cases h)
    (fun h => by cases h) (fun h => by cases h) (fun h => by cases h)

/-- The keys that are promoted while `key` is linked, unlinked or reported. -/
def Phase.promoting (key : Key) : Phase → Prop
  | .linking k _ | .unlinking k _ | .promoted k _ => k = key
  | _ => False

theorem checked_promoting {key : Key} {phase : Phase} (h : phase.promoting key) :
    phase.checked = true := by
  cases phase <;> first | rfl | cases h

theorem tidy_promoting {key : Key} (h : s.phase.promoting key) (htidy : Tidy release names s) :
    s.moved = s.held.map (release.destination names) ∧ s.held <+: quartetOrder := by
  unfold Tidy at htidy
  cases hphase : s.phase with
  | linking k rest =>
    rw [hphase] at htidy
    exact ⟨htidy.2, _, htidy.1⟩
  | unlinking k rest =>
    rw [hphase] at htidy
    exact ⟨htidy.2, _, htidy.1⟩
  | promoted k rest =>
    rw [hphase] at htidy
    exact ⟨htidy.2, _, htidy.1⟩
  | _ => simp [hphase, Phase.promoting] at h

theorem rollback_effect (e : Event) {key : Key} (error : Exception)
    (h : s.phase.promoting key) :
    Effect release names fs s e { s with phase := startRollback release names s key error } fs := by
  refine .quiet _ (fun htidy => ?_) (fun h => by cases h) (fun h => by cases h)
    (fun _ => .inl (checked_promoting h)) (fun h => by cases h)
  have hmoved := tidy_promoting h htidy
  exact ⟨congrArg List.reverse hmoved.1, hmoved.2⟩

theorem linkKey_effect (e : Event) {key : Key} {rest : List Key}
    (hphase : s.phase = .linking key rest)
    (h : linkKey release names fs s key rest = (s', fs')) :
    Effect release names fs s e s' fs' := by
  unfold linkKey at h
  dsimp only at h
  split at h
  next hlink =>
    have hok := link_ok hlink
    cases h
    rw [hok.2.2]
    exact .linked key rest hphase hok.1 hok.2.1
  · cases h
    exact rollback_effect e _ (by rw [hphase]; rfl)

theorem unlinkKey_effect (e : Event) {key : Key} {rest : List Key}
    (hphase : s.phase = .unlinking key rest)
    (h : unlinkKey release names fs s key rest = (s', fs')) :
    Effect release names fs s e s' fs' := by
  unfold unlinkKey at h
  dsimp only at h
  split at h
  next hunlink =>
    cases h
    rw [unlink_ok hunlink]
    exact .unlinked key rest hphase
  · cases h
    exact rollback_effect e _ (by rw [hphase]; rfl)

theorem wipe_effect (hphase : s.phase = .wiping) :
    Effect release names fs s .proceed { s with phase := (wipe release fs).1 }
      (wipe release fs).2 := by
  have hearly : s.phase.early = true := by rw [hphase]; rfl
  have hchecked : s.phase.checked = true := by rw [hphase]; rfl
  unfold wipe
  split
  · split
    next hthere => exact .wiped hphase hthere
    · exact raised_effect .proceed _ hearly
  · exact early_effect .proceed hearly rfl (fun h => by cases h) (fun h => by cases h)
      (fun _ => .inl hchecked) (fun h => by cases h)

theorem makeOwned_effect (e : Event) (hphase : s.phase = .making) :
    Effect release names fs s e { s with phase := (makeOwned release fs).1 }
      (makeOwned release fs).2 := by
  have hearly : s.phase.early = true := by rw [hphase]; rfl
  unfold makeOwned
  split
  · exact raised_effect e _ hearly
  next hfree =>
    split
    · exact raised_effect e _ hearly
    · exact .made hphase (Option.not_isSome_iff_eq_none.mp hfree)

theorem promote_effect (e : Event) {keys : List Key} (hphase : s.phase.built = true)
    (hlive : keys ≠ [] → s.phase.live = true)
    (htidy : Tidy release names s →
      s.held ++ keys = quartetOrder ∧ s.moved = s.held.map (release.destination names)) :
    Effect release names fs s e { s with phase := promote keys } fs := by
  have hchecked : s.phase.checked = true := by
    cases hp : s.phase <;> rw [hp] at hphase <;> first | rfl | cases hphase
  cases keys with
  | nil =>
    refine .quiet _ (fun h => ?_) (fun h => by cases h) (fun h => by cases h)
      (fun _ => .inl hchecked) (fun h => by cases h)
    exact (List.append_nil s.held) ▸ (htidy h).1
  | cons key rest =>
    exact .quiet _ (fun h => htidy h) (fun _ => hlive (List.cons_ne_nil key rest))
      (fun _ => hphase) (fun _ => .inl hchecked) (fun h => by cases h)

theorem checkNames_effect (hphase : s.phase = .entered) :
    Effect release names fs s .proceed { s with phase := checkNames names } fs := by
  have hearly : s.phase.early = true := by rw [hphase]; rfl
  unfold checkNames
  split
  · exact early_effect _ hearly rfl (fun h => by cases h) (fun h => by cases h)
      (fun h => by cases h) (fun h => by cases h)
  · exact raised_effect _ _ hearly

theorem checkOwned_effect (hphase : s.phase = .beforeConstruction) :
    Effect release names fs s .proceed { s with phase := checkOwned release } fs := by
  have hearly : s.phase.early = true := by rw [hphase]; rfl
  unfold checkOwned
  split
  next hsafe =>
    exact early_effect _ hearly rfl (fun h => by cases h) (fun h => by cases h)
      (fun _ => .inr hsafe) (fun h => by cases h)
  · exact raised_effect _ _ hearly

theorem gate_effect {key : Key} {rest : List Key} (hphase : s.phase = .gating (key :: rest)) :
    Effect release names fs s .proceed { s with phase := gate fs (s.sources key) rest } fs := by
  have hearly : s.phase.early = true := by rw [hphase]; rfl
  have hlive : s.phase.live = true := by rw [hphase]; rfl
  have hbuilt : s.phase.built = true := by rw [hphase]; rfl
  have hchecked : s.phase.checked = true := by rw [hphase]; rfl
  unfold gate
  split
  · exact early_effect _ hearly rfl (fun _ => hlive) (fun _ => hbuilt) (fun _ => .inl hchecked)
      (fun h => by cases h)
  · exact raised_effect _ _ hearly

theorem probing_effect {rest : List Key} {existing : List PurePath}
    (hphase : s.phase = .probing rest existing)
    (h : proceed release names fs s = some (s', fs')) :
    Effect release names fs s .proceed s' fs' := by
  have hearly : s.phase.early = true := by rw [hphase]; rfl
  cases rest with
  | cons key rest =>
    simp only [proceed, hphase] at h
    cases h
    exact early_effect _ hearly rfl (fun h => by cases h) (fun h => by cases h)
      (fun h => by cases h) (fun h => by cases h)
  | nil =>
    cases existing with
    | nil =>
      simp only [proceed, hphase] at h
      cases h
      exact early_effect _ hearly rfl (fun h => by cases h) (fun h => by cases h)
        (fun h => by cases h) (fun h => by cases h)
    | cons first others =>
      simp only [proceed, hphase] at h
      cases h
      exact raised_effect _ _ hearly

theorem rollingBack_effect {rest : List PurePath} {last : PurePath} {error : Exception}
    (hphase : s.phase = .rollingBack rest last error)
    (h : proceed release names fs s = some (s', fs')) :
    Effect release names fs s .proceed s' fs' := by
  cases rest with
  | cons destination rest =>
    simp only [proceed, hphase] at h
    cases h
    exact .tookBack destination last rest error hphase
  | nil =>
    simp only [proceed, hphase] at h
    cases h
    refine .quiet _ (fun htidy => ?_) (fun h => by cases h) (fun h => by cases h)
      (fun h => by cases h) (fun h => by cases h)
    unfold Tidy at htidy
    rw [hphase] at htidy
    exact List.map_eq_nil_iff.mp (List.reverse_eq_nil_iff.mp htidy.1.symm)

theorem proceed_effect (h : proceed release names fs s = some (s', fs')) :
    Effect release names fs s .proceed s' fs' := by
  cases hphase : s.phase with
  | entered =>
    simp only [proceed, hphase] at h
    cases h
    exact checkNames_effect hphase
  | probing rest existing => exact probing_effect hphase h
  | beforeConstruction =>
    simp only [proceed, hphase] at h
    cases h
    exact checkOwned_effect hphase
  | wiping =>
    simp only [proceed, hphase] at h
    cases h
    exact wipe_effect hphase
  | making =>
    simp only [proceed, hphase] at h
    cases h
    exact makeOwned_effect .proceed hphase
  | building =>
    simp only [proceed, hphase] at h
    cases h
  | gating rest =>
    cases rest with
    | cons key rest =>
      simp only [proceed, hphase] at h
      cases h
      exact gate_effect hphase
    | nil =>
      simp only [proceed, hphase] at h
      cases h
      exact early_effect _ (by rw [hphase]; rfl) rfl (fun _ => by rw [hphase]; rfl)
        (fun _ => by rw [hphase]; rfl) (fun _ => .inl (by rw [hphase]; rfl)) (fun h => by cases h)
  | beforePromotion =>
    simp only [proceed, hphase] at h
    cases h
    refine promote_effect _ (by rw [hphase]; rfl) (fun _ => by rw [hphase]; rfl) (fun htidy => ?_)
    have hnone := (tidy_early (by rw [hphase]; rfl)).mp htidy
    rw [hnone.1, hnone.2]
    exact ⟨rfl, rfl⟩
  | linking key rest =>
    simp only [proceed, hphase] at h
    exact linkKey_effect _ hphase (Option.some.inj h)
  | unlinking key rest =>
    simp only [proceed, hphase] at h
    exact unlinkKey_effect _ hphase (Option.some.inj h)
  | promoted key rest =>
    simp only [proceed, hphase] at h
    cases h
    refine promote_effect _ (by rw [hphase]; rfl) (fun hrest => ?_) (fun htidy => ?_)
    · rw [hphase]
      simpa [Phase.live] using hrest
    · unfold Tidy at htidy
      rw [hphase] at htidy
      exact htidy
  | rollingBack rest last error => exact rollingBack_effect hphase h
  | returned =>
    simp only [proceed, hphase] at h
    cases h
  | raised error =>
    simp only [proceed, hphase] at h
    cases h

theorem fault_effect {error : Exception} (h : fault release names error s = some s') :
    Effect release names fs s (.fault error) s' fs := by
  unfold fault at h
  split at h
  next hphase => exact Option.some.inj h ▸ rollback_effect _ error (by rw [hphase]; rfl)
  next hphase => exact Option.some.inj h ▸ rollback_effect _ error (by rw [hphase]; rfl)
  next hphase => exact Option.some.inj h ▸ rollback_effect _ error (by rw [hphase]; rfl)
  · cases h
  · cases h
  · cases h
  · cases h
  next hlinking hunlinking hpromoted hentered hrolling hreturned hraised =>
    refine Option.some.inj h ▸ raised_effect _ error ?_
    cases hphase : s.phase with
    | linking key rest => exact absurd hphase (hlinking key rest)
    | unlinking key rest => exact absurd hphase (hunlinking key rest)
    | promoted key rest => exact absurd hphase (hpromoted key rest)
    | rollingBack rest last error => exact absurd hphase (hrolling rest last error)
    | returned => exact absurd hphase hreturned
    | raised error => exact absurd hphase (hraised error)
    | _ => rfl

/-- The paths of a complete quartet are among those the builder returned. -/
theorem lookupPath_inside {sources : List (String × PurePath)}
    (hpaths : sources.all (fun entry => release.owned.inside entry.2) = true)
    (hquartet : isQuartet sources = true) (key : Key) :
    release.owned.inside (lookupPath sources release.owned key) = true := by
  cases lookup_of_isQuartet hquartet key with
  | intro source hsource =>
    rw [lookupPath, hsource, Option.getD_some]
    exact List.all_eq_true.mp hpaths _ (mem_of_lookup hsource)

theorem builderReturns_effect {sources : List (String × PurePath)} (hphase : s.phase = .building)
    (h : builderReturns release s sources = some s') :
    Effect release names fs s (.builderReturns sources) s' fs := by
  unfold builderReturns at h
  split at h
  next hpaths =>
    split at h
    next hquartet =>
      cases h
      exact .built _ hphase (lookupPath_inside hpaths hquartet)
    · cases h
      exact raised_effect _ _ (by rw [hphase]; rfl)
  · cases h

theorem builderWrites_effect {path : PurePath} {bytes : Bytes} (hphase : s.phase = .building)
    (h : builderWrites release fs s path bytes = some (s', fs')) :
    Effect release names fs s (.builderWrites path bytes) s' fs' := by
  unfold builderWrites at h
  split at h
  next hpath =>
    rw [Option.map_eq_some_iff] at h
    cases h with
    | intro written h =>
      cases h.2
      exact .wrote path bytes _ hphase hpath.1 h.1
  · cases h

/-- What an event of a call does, once and for all. -/
theorem step_effect {e : Event} (h : step release names fs s e = some (s', fs')) :
    Effect release names fs s e s' fs' := by
  cases e with
  | proceed => exact proceed_effect h
  | fault error =>
    rw [step, Option.map_eq_some_iff] at h
    cases h with
    | intro faulted h =>
      cases h.2
      exact fault_effect h.1
  | builderWrites path bytes =>
    simp only [step] at h
    split at h
    next hphase => exact builderWrites_effect hphase h
    · cases h
  | builderMakesDirectory path =>
    simp only [step, builderMakesDirectory] at h
    split at h
    next hphase =>
      split at h
      next hpath =>
        cases h
        exact .madeDirectory path hphase hpath.1
      · cases h
    · cases h
  | builderRemoves path =>
    simp only [step, builderRemoves] at h
    split at h
    next hphase =>
      split at h
      next hpath =>
        cases h
        exact .removed path hphase hpath
      · cases h
    · cases h
  | builderReturns sources =>
    simp only [step] at h
    split at h
    next hphase =>
      rw [Option.map_eq_some_iff] at h
      cases h with
      | intro returned h =>
        cases h.2
        exact builderReturns_effect hphase h.1
    · cases h

end Effects

end AttestationSdk.Transaction
