import AttestationSdk.StepRuns
import AttestationSdk.TransactionSteps
import Mathlib.Data.List.Induction

/-! Calls of `transaction.run` that share one staging directory. -/
namespace AttestationSdk.Transaction
open LinkedFiles

/-- The calls of one release and the file system they work on. `others` is what was there before
them and what somebody else has created since. -/
structure World (ι : Type) where
  fs : Files
  runs : ι → RunState
  others : PurePath → Option (Content PurePath Bytes)

section Worlds
variable {ι : Type} [DecidableEq ι] (release : Release) (names : ι → DestinationNames)

def initial (fs : Files) : World ι where
  fs := fs
  runs := fun _ => start release
  others := fs.content

/-- One event of one of the calls. -/
def turn (w : World ι) (t : ι × Event) : Option (World ι) :=
  (step release (names t.1) w.fs (w.runs t.1) t.2).map (fun r =>
    { w with fs := r.2, runs := Function.update w.runs t.1 r.1 })

/-- Somebody else creates a file. -/
def create (w : World ι) (path : PurePath) (bytes : Bytes) : Option (World ι) :=
  if w.fs.names path = none then
    some { w with
      fs := w.fs.createFile path bytes
      others := Function.update w.others path (some (.file bytes)) }
  else none

/-- The event does not wipe the staging directory of another call. -/
def NoLiveWipe (w : World ι) (t : ι × Event) : Prop :=
  t.2 = .proceed → (w.runs t.1).phase = .wiping → (w.fs.leadsTo release.owned).isSome = true →
    ∀ j, j ≠ t.1 → (w.runs j).phase.live = false

/-- What one call keeps to. -/
structure Orderly (names : DestinationNames) (s : RunState) : Prop where
  tidy : Tidy release names s
  checked : s.phase.checked = true → release.safeOwned = true
  built : s.phase.built = true → ∀ key, release.owned.inside (s.sources key) = true

/-- The files of the staging directory are the builder's. -/
def Produced (fs : Files) (wrote : PurePath → Option Bytes) : Prop :=
  ∀ p, release.owned.inside p = true → ∀ k, fs.content p = some k →
    k = .directory ∨ ∃ bytes, k = .file bytes ∧ wrote p = some bytes

/-- The staging directory belongs to at most one call. -/
structure Staged (w : World ι) : Prop where
  alone : ∀ i j, (w.runs i).phase.live = true → (w.runs j).phase.live = true → i = j
  present : ∀ i, (w.runs i).phase.live = true → w.fs.names release.owned = some .directory
  produced : ∀ i, (w.runs i).phase.live = true → Produced release w.fs (w.runs i).wrote
  unshared : ∀ i, (w.runs i).phase = .building → w.fs.Unshared release.owned.inside

end Worlds

section Orderly
variable {release : Release} {names : DestinationNames} {fs fs' : Files} {s s' : RunState}
  {e : Event}

theorem start_orderly : Orderly release names (start release) where
  tidy := ⟨rfl, rfl⟩
  checked h := by cases h
  built h := by cases h

theorem tidy_linked {key : Key} {rest : List Key} (hphase : s.phase = .linking key rest)
    (h : Tidy release names s) :
    (s.held ++ [key]) ++ rest = quartetOrder ∧
      s.moved ++ [release.destination names key] =
        (s.held ++ [key]).map (release.destination names) := by
  unfold Tidy at h
  rw [hphase] at h
  constructor
  · rw [List.append_assoc]
    exact h.1
  · rw [List.map_append, h.2]
    rfl

theorem tidy_tookBack {destination last : PurePath} {rest : List PurePath} {error : Exception}
    (hphase : s.phase = .rollingBack (destination :: rest) last error)
    (h : Tidy release names s) :
    ∃ held key, s.held = held ++ [key] ∧ destination = release.destination names key ∧
      rest = (held.map (release.destination names)).reverse ∧ held <+: quartetOrder := by
  unfold Tidy at h
  rw [hphase] at h
  cases hheld : s.held using List.reverseRecOn with
  | nil => simp [hheld] at h
  | append_singleton held key =>
    rw [hheld, List.map_append, List.reverse_append] at h
    obtain ⟨hrest, hprefix⟩ := h
    refine ⟨held, key, rfl, ?_, ?_, (List.prefix_append held [key]).trans hprefix⟩
    · exact (List.cons.inj hrest).1
    · exact (List.cons.inj hrest).2

theorem effect_tidy (h : Effect release names fs s e s' fs') (htidy : Tidy release names s) :
    Tidy release names s' := by
  cases h with
  | quiet phase hquiet => exact hquiet htidy
  | wiped hphase =>
    show s.held = [] ∧ s.moved = []
    exact (tidy_early (by rw [hphase]; rfl)).mp htidy
  | made hphase =>
    show s.held = [] ∧ s.moved = []
    exact (tidy_early (by rw [hphase]; rfl)).mp htidy
  | wrote path bytes fs' hphase => exact htidy
  | madeDirectory path hphase => exact htidy
  | removed path hphase => exact htidy
  | built sources hphase =>
    show s.held = [] ∧ s.moved = []
    exact (tidy_early (by rw [hphase]; rfl)).mp htidy
  | linked key rest hphase => exact tidy_linked hphase htidy
  | unlinked key rest hphase =>
    unfold Tidy at htidy
    rw [hphase] at htidy
    exact htidy
  | tookBack destination last rest error hphase =>
    obtain ⟨held, key, hheld, _, hrest, hprefix⟩ := tidy_tookBack hphase htidy
    show rest = (s.held.dropLast.map (release.destination names)).reverse ∧
      s.held.dropLast <+: quartetOrder
    rw [hheld, List.dropLast_concat]
    exact ⟨hrest, hprefix⟩

theorem effect_orderly (h : Effect release names fs s e s' fs') (ho : Orderly release names s) :
    Orderly release names s' := by
  have htidy := effect_tidy h ho.tidy
  cases h with
  | quiet phase hquiet hlive hbuilt hchecked hbuilding =>
    exact ⟨htidy, fun hc => (hchecked hc).elim ho.checked id, fun hb => ho.built (hbuilt hb)⟩
  | wiped hphase =>
    exact ⟨htidy, fun _ => ho.checked (by rw [hphase]; rfl), fun hb => by cases hb⟩
  | made hphase =>
    exact ⟨htidy, fun _ => ho.checked (by rw [hphase]; rfl), fun hb => by cases hb⟩
  | wrote path bytes fs' hphase => exact ⟨htidy, ho.checked, ho.built⟩
  | madeDirectory path hphase => exact ho
  | removed path hphase => exact ho
  | built sources hphase hsources =>
    exact ⟨htidy, fun _ => ho.checked (by rw [hphase]; rfl), fun _ => hsources⟩
  | linked key rest hphase =>
    exact ⟨htidy, fun _ => ho.checked (by rw [hphase]; rfl),
      fun _ => ho.built (by rw [hphase]; rfl)⟩
  | unlinked key rest hphase =>
    exact ⟨htidy, fun _ => ho.checked (by rw [hphase]; rfl),
      fun _ => ho.built (by rw [hphase]; rfl)⟩
  | tookBack destination last rest error hphase =>
    exact ⟨htidy, fun _ => ho.checked (by rw [hphase]; rfl), fun hb => by cases hb⟩

/-- What a call holds is a beginning of the quartet. -/
theorem held_begins (h : Tidy release names s) : s.held <+: quartetOrder := by
  unfold Tidy at h
  split at h
  · exact ⟨_, h.1⟩
  · exact ⟨_, h.1⟩
  · exact ⟨_, h.1⟩
  · exact h.2
  · exact h ▸ List.prefix_refl _
  · exact h ▸ List.nil_prefix
  · exact h.1 ▸ List.nil_prefix

end Orderly

section Staging
variable {release : Release} {fs fs' : Files} {wrote : PurePath → Option Bytes}

theorem owned_under : release.owned.under release.owned = true :=
  under_iff.mpr ⟨rfl, List.prefix_refl _⟩

theorem inside_ne_owned {p : PurePath} (h : release.owned.inside p = true) : p ≠ release.owned :=
  (inside_iff.mp h).2

/-- The owned directory is not under what lies inside it. -/
theorem not_under_inside {p : PurePath} (h : release.owned.inside p = true) :
    p.under release.owned = false := by
  rw [Bool.eq_false_iff, ne_eq, under_iff]
  intro hunder
  have hp := under_iff.mp (under_of_inside h)
  apply inside_ne_owned h
  have hparts := hunder.2.eq_of_length (Nat.le_antisymm hunder.2.length_le hp.2.length_le)
  cases p
  cases howned : release.owned
  rw [howned] at hparts hunder
  dsimp only at hparts hunder
  rw [hparts, hunder.1]

theorem produced_removeAll {R : PurePath → Bool} (h : Produced release fs wrote) :
    Produced release (fs.removeAll R) wrote := by
  intro p hp k hk
  rw [content_removeAll] at hk
  split at hk
  · cases hk
  · exact h p hp k hk

theorem produced_addDirectories {R : PurePath → Bool} (h : Produced release fs wrote) :
    Produced release (fs.addDirectories R) wrote := by
  intro p hp k hk
  rw [content_addDirectories] at hk
  split at hk
  · exact .inl (Option.some.inj hk).symm
  · exact h p hp k hk

/-- Outside the staging directory nothing counts. -/
theorem produced_update {q : PurePath} {k : Option (Content PurePath Bytes)}
    (hq : release.owned.inside q = false)
    (hcontent : ∀ p, fs'.content p = Function.update fs.content q k p)
    (h : Produced release fs wrote) : Produced release fs' wrote := by
  intro p hp k' hk
  have hpq : p ≠ q := fun hpq => by rw [hpq, hq] at hp; cases hp
  rw [hcontent, Function.update_of_ne hpq] at hk
  exact h p hp k' hk

theorem produced_write {path : PurePath} {bytes : Bytes}
    (hpath : release.owned.inside path = true) (hwrite : fs.write path bytes = some fs')
    (hunshared : fs.Unshared release.owned.inside) (h : Produced release fs wrote) :
    Produced release fs' (Function.update wrote path (some bytes)) := by
  intro p hp k hk
  rw [content_write hwrite hunshared hpath] at hk
  by_cases hpp : p = path
  · rw [hpp, Function.update_self] at hk ⊢
    exact .inr ⟨bytes, (Option.some.inj hk).symm, rfl⟩
  · rw [Function.update_of_ne hpp] at hk ⊢
    exact h p hp k hk

/-- A new staging directory is empty. -/
theorem made_content {p : PurePath} (hp : release.owned.inside p = true)
    {k : Content PurePath Bytes}
    (hk : ((fs.removeAll release.owned.inside).addDirectories
      (madeDirectory release fs)).content p = some k) : k = .directory := by
  rw [content_addDirectories] at hk
  split at hk
  · exact (Option.some.inj hk).symm
  · rw [content_removeAll, if_pos hp] at hk
    cases hk

theorem made_unshared : ((fs.removeAll release.owned.inside).addDirectories
    (madeDirectory release fs)).Unshared release.owned.inside := by
  refine unshared_of_no_file (fun p i hp hpi => ?_)
  have hk := made_content hp (content_of_names hpi)
  cases hk

theorem made_present : ((fs.removeAll release.owned.inside).addDirectories
    (madeDirectory release fs)).names release.owned = some .directory := by
  rw [addDirectories_names, if_pos]
  simp [madeDirectory]

theorem write_present {path : PurePath} {bytes : Bytes}
    (hpath : release.owned.inside path = true) (hwrite : fs.write path bytes = some fs') :
    fs'.names release.owned = fs.names release.owned := by
  unfold FileSystem.write at hwrite
  split at hwrite
  · cases hwrite
    exact Function.update_of_ne (inside_ne_owned hpath).symm _ _
  · cases hwrite
    rfl
  · cases hwrite

theorem removeName_present {p : PurePath} (hp : p ≠ release.owned) :
    (fs.removeName p).names release.owned = fs.names release.owned := by
  rw [FileSystem.removeName, removeAll_names, if_neg]
  simpa using hp.symm

theorem takeBack_cases (release : Release) (fs : Files) (names : DestinationNames) (p : PurePath) :
    takeBack release names fs p = fs ∨ takeBack release names fs p = fs.removeName p := by
  unfold takeBack
  split
  · split
    next hunlink => exact .inr (unlink_ok hunlink)
    · exact .inl rfl
  · exact .inl rfl

end Staging

section Turns
variable {ι : Type} [DecidableEq ι] {release : Release} {names : ι → DestinationNames}
  {w : World ι} {i : ι} {e : Event} {s' : RunState} {fs' : Files}

/-- The world after call `i` has come to `s'` and the file system to `fs'`. -/
def World.after (w : World ι) (i : ι) (s' : RunState) (fs' : Files) : World ι :=
  { w with fs := fs', runs := Function.update w.runs i s' }

theorem after_self : (w.after i s' fs').runs i = s' := by
  rw [World.after]
  exact Function.update_self _ _ _

theorem after_other {j : ι} (hj : j ≠ i) : (w.after i s' fs').runs j = w.runs j := by
  rw [World.after]
  exact Function.update_of_ne hj _ _

theorem turn_effect {t : ι × Event} {w' : World ι} (h : turn release names w t = some w') :
    ∃ s' fs', w' = w.after t.1 s' fs' ∧
      Effect release (names t.1) w.fs (w.runs t.1) t.2 s' fs' := by
  rw [turn, Option.map_eq_some_iff] at h
  cases h with
  | intro r h => exact ⟨r.1, r.2, h.2.symm, step_effect h.1⟩

theorem live_of_building {phase : Phase} (h : phase = .building) : phase.live = true := by
  rw [h]
  rfl

/-- No other call is between the creation of its staging directory and its last link. -/
theorem staged_sole (hsole : ∀ j, j ≠ i → (w.runs j).phase.live = false)
    (hpresent : s'.phase.live = true → fs'.names release.owned = some .directory)
    (hproduced : s'.phase.live = true → Produced release fs' s'.wrote)
    (hunshared : s'.phase = .building → fs'.Unshared release.owned.inside) :
    Staged release (w.after i s' fs') := by
  have honly (j : ι) (hj : ((w.after i s' fs').runs j).phase.live = true) : j = i := by
    by_cases hji : j = i
    · exact hji
    · rw [after_other hji, hsole j hji] at hj
      cases hj
  constructor
  case alone => exact fun j k hj hk => (honly j hj).trans (honly k hk).symm
  case present =>
    intro j hj
    cases honly j hj
    rw [after_self] at hj
    exact hpresent hj
  case produced =>
    intro j hj
    cases honly j hj
    rw [after_self]
    rw [after_self] at hj
    exact hproduced hj
  case unshared =>
    intro j hj
    cases honly j (live_of_building hj)
    rw [after_self] at hj
    exact hunshared hj

/-- The call gains no staging directory, and the staging directory no files. -/
theorem staged_shrink (h : Staged release w)
    (hlive : s'.phase.live = true → (w.runs i).phase.live = true)
    (hbuilding : s'.phase = .building → (w.runs i).phase = .building)
    (hwrote : s'.wrote = (w.runs i).wrote)
    (hpresent : fs'.names release.owned = w.fs.names release.owned)
    (hproduced : ∀ wrote, Produced release w.fs wrote → Produced release fs' wrote)
    (hunshared : w.fs.Unshared release.owned.inside → fs'.Unshared release.owned.inside) :
    Staged release (w.after i s' fs') := by
  have hbefore (j : ι) (hj : ((w.after i s' fs').runs j).phase.live = true) :
      (w.runs j).phase.live = true := by
    by_cases hji : j = i
    · rw [hji, after_self] at hj
      exact hji ▸ hlive hj
    · rwa [after_other hji] at hj
  constructor
  case alone => exact fun j k hj hk => h.alone j k (hbefore j hj) (hbefore k hk)
  case present => exact fun j hj => hpresent.trans (h.present j (hbefore j hj))
  case produced =>
    intro j hj
    have hj' := hproduced _ (h.produced j (hbefore j hj))
    by_cases hji : j = i
    · rw [hji] at hj' ⊢
      rwa [after_self, hwrote]
    · rwa [after_other hji]
  case unshared =>
    intro j hj
    refine hunshared (h.unshared j ?_)
    by_cases hji : j = i
    · rw [hji, after_self] at hj
      exact hji ▸ hbuilding hj
    · rwa [after_other hji] at hj

theorem staged_made (h : Staged release w) (hfree : w.fs.names release.owned = none) :
    Staged release (w.after i { w.runs i with phase := .building }
      ((w.fs.removeAll release.owned.inside).addDirectories (madeDirectory release w.fs))) := by
  refine staged_sole (fun j _ => ?_) (fun _ => made_present) (fun _ p hp k hk => ?_)
    (fun _ => made_unshared)
  · rw [Bool.eq_false_iff]
    intro hj
    rw [h.present j hj] at hfree
    cases hfree
  · exact .inl (made_content hp hk)

theorem staged_wrote (h : Staged release w) {path : PurePath} {bytes : Bytes}
    (hphase : (w.runs i).phase = .building) (hpath : release.owned.inside path = true)
    (hwrite : w.fs.write path bytes = some fs') :
    Staged release (w.after i
      { w.runs i with wrote := Function.update (w.runs i).wrote path (some bytes) } fs') := by
  have hlive := live_of_building hphase
  have hunshared := h.unshared i hphase
  refine staged_sole (fun j hj => ?_) (fun _ => ?_) (fun _ => ?_) (fun _ => ?_)
  · exact Bool.eq_false_iff.mpr (fun hlive' => hj (h.alone j i hlive' hlive))
  · exact (write_present hpath hwrite).trans (h.present i hlive)
  · exact produced_write hpath hwrite hunshared (h.produced i hlive)
  · exact write_unshared hwrite hunshared

theorem staged_linked (h : Staged release w) (hsafe : release.safeOwned = true) {key : Key}
    {rest : List Key} (hphase : (w.runs i).phase = .linking key rest)
    (hs' : s'.phase = .unlinking key rest ∧ s'.wrote = (w.runs i).wrote) :
    Staged release (w.after i s' (w.fs.copyName ((w.runs i).sources key)
      (release.destination (names i) key))) := by
  have hlive : (w.runs i).phase.live = true := by rw [hphase]; rfl
  have houtside := destination_not_under (names i) hsafe key
  refine staged_sole (fun j hj => ?_) (fun _ => ?_) (fun _ => ?_) (fun hb => ?_)
  · exact Bool.eq_false_iff.mpr (fun hlive' => hj (h.alone j i hlive' hlive))
  · have hne : release.owned ≠ release.destination (names i) key := fun howned => by
      rw [← howned, owned_under] at houtside
      cases houtside
    exact (Function.update_of_ne hne _ _).trans (h.present i hlive)
  · rw [hs'.2]
    refine produced_update ?_ (content_copyName _ _ _) (h.produced i hlive)
    rw [PurePath.inside, houtside, Bool.false_and]
  · rw [hs'.1] at hb
    cases hb

theorem staged_turn (h : Staged release w) (ho : Orderly release (names i) (w.runs i))
    (hcond : NoLiveWipe release w (i, e))
    (heffect : Effect release (names i) w.fs (w.runs i) e s' fs') :
    Staged release (w.after i s' fs') := by
  cases heffect with
  | quiet phase htidy hlive hbuilt hchecked hbuilding =>
    exact staged_shrink h hlive (fun hb => absurd hb hbuilding) rfl rfl (fun _ => id) id
  | wiped hphase hthere =>
    have hwipe : (w.fs.leadsTo release.owned).isSome = true := by
      simp [FileSystem.leadsTo, FileSystem.maxSymlinks, FileSystem.resolve, hthere]
    exact staged_sole (hcond rfl hphase hwipe) (fun hl => by cases hl) (fun hl => by cases hl)
      (fun hb => by cases hb)
  | made hphase hfree => exact staged_made h hfree
  | wrote path bytes fs' hphase hpath hwrite => exact staged_wrote h hphase hpath hwrite
  | madeDirectory path hphase hpath =>
    refine staged_shrink h id id rfl ?_ (fun _ => produced_addDirectories) addDirectories_unshared
    rw [addDirectories_names, if_neg]
    simpa using (inside_ne_owned hpath).symm
  | removed path hphase hpath =>
    refine staged_shrink h id id rfl ?_ (fun _ => produced_removeAll) removeAll_unshared
    rw [removeAll_names, not_under_inside hpath]
    rfl
  | built sources hphase hsources =>
    exact staged_shrink h (fun _ => live_of_building hphase) (fun hb => by cases hb) rfl rfl
      (fun _ => id) id
  | linked key rest hphase hsource hfree =>
    exact staged_linked h (ho.checked (by rw [hphase]; rfl)) hphase ⟨rfl, rfl⟩
  | unlinked key rest hphase =>
    have hinside := ho.built (by rw [hphase]; rfl) key
    refine staged_shrink h (fun hl => ?_) (fun hb => by cases hb) rfl
      (removeName_present (inside_ne_owned hinside)) (fun _ => produced_removeAll)
      removeAll_unshared
    rw [hphase]
    exact hl
  | tookBack destination last rest error hphase =>
    obtain ⟨held, key, _, hdestination, _⟩ := tidy_tookBack hphase ho.tidy
    have houtside := destination_not_under (names i) (ho.checked (by rw [hphase]; rfl)) key
    have hne : destination ≠ release.owned := fun howned => by
      rw [← hdestination, howned, owned_under] at houtside
      cases houtside
    cases takeBack_cases release w.fs (names i) destination with
    | inl hsame =>
      rw [hsame]
      exact staged_shrink h (fun hl => by cases hl) (fun hb => by cases hb) rfl rfl (fun _ => id) id
    | inr hremoved =>
      rw [hremoved]
      exact staged_shrink h (fun hl => by cases hl) (fun hb => by cases hb) rfl
        (removeName_present hne) (fun _ => produced_removeAll) removeAll_unshared

end Turns

end AttestationSdk.Transaction
