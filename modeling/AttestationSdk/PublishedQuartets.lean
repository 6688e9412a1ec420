import AttestationSdk.SharedStaging
import Mathlib.Data.List.Nodup

/-! What the calls of one release leave in `dist`, outside their staging directory. -/
namespace AttestationSdk.Transaction
open LinkedFiles

section Turns
variable {ι : Type} {release : Release} {names : ι → DestinationNames}
  {w : World ι} {i : ι} {e : Event} {s' : RunState} {fs' : Files}

variable (release names) in
/-- No two promoted files have the same place. -/
def Apart (w : World ι) : Prop :=
  ∀ i, ∀ key ∈ (w.runs i).held, ∀ j, ∀ key' ∈ (w.runs j).held,
    release.destination (names i) key = release.destination (names j) key' → i = j ∧ key = key'

variable (release names) in
/-- Outside the staging directory there is what others have there and what the calls hold. -/
structure Published (w : World ι) : Prop where
  kept : ∀ p, release.Outside p → ∀ k, w.others p = some k → w.fs.content p = some k
  own : ∀ i, ∀ key ∈ (w.runs i).held, ∃ bytes,
    (w.runs i).wrote ((w.runs i).sources key) = some bytes ∧
      w.fs.content (release.destination (names i) key) = some (.file bytes)
  free : ∀ i, ∀ key ∈ (w.runs i).held, w.others (release.destination (names i) key) = none
  apart : Apart release names w
  rest : ∀ p, release.Outside p → ∀ k, w.fs.content p = some k →
    w.others p = some k ∨ (k = .directory ∧ release.owned.parents.contains p = true) ∨
      ∃ i, ∃ key ∈ (w.runs i).held, p = release.destination (names i) key

theorem outside_ne {names : DestinationNames} {s : RunState} (ho : Orderly release names s)
    (hchecked : s.phase.checked = true) {p q : PurePath} (hp : release.Outside p)
    (hq : release.owned.inside q = true) : p ≠ q := fun hpq => by
  cases (under_of_inside hq).symm.trans (hpq ▸ hp (ho.checked hchecked))

theorem held_of_early {names : DestinationNames} {s : RunState} (ho : Orderly release names s)
    (h : s.phase.early = true) : s.held = [] :=
  ((tidy_early h).mp ho.tidy).1

/-- What is linked is what the builder wrote. -/
theorem produced_source (hst : Staged release w) (ho : Orderly release (names i) (w.runs i))
    {key : Key} {rest : List Key} (hphase : (w.runs i).phase = .linking key rest)
    (hsource : w.fs.content ((w.runs i).sources key) ≠ none ∧
      w.fs.content ((w.runs i).sources key) ≠ some .directory) :
    ∃ bytes, w.fs.content ((w.runs i).sources key) = some (.file bytes) ∧
      (w.runs i).wrote ((w.runs i).sources key) = some bytes := by
  have hproduced := hst.produced i (by rw [hphase]; rfl)
  have hinside := ho.built (by rw [hphase]; rfl) key
  cases hcontent : w.fs.content ((w.runs i).sources key) with
  | none => exact absurd hcontent hsource.1
  | some k =>
    cases hproduced _ hinside k hcontent with
    | inl hdirectory => exact absurd (hdirectory ▸ hcontent) hsource.2
    | inr hfile =>
      obtain ⟨bytes, hk, hwrote⟩ := hfile
      exact ⟨bytes, congrArg some hk, hwrote⟩

theorem quartetOrder_nodup : quartetOrder.Nodup := by
  decide

theorem takeBack_held (h : Published release names w) {key : Key} (hkey : key ∈ (w.runs i).held) :
    takeBack release (names i) w.fs (release.destination (names i) key) =
      w.fs.removeName (release.destination (names i) key) := by
  obtain ⟨_, _, hcontent⟩ := h.own i key hkey
  have hmem :
      (release.destinations (names i)).contains (release.destination (names i) key) = true :=
    List.contains_iff_mem.mpr (List.mem_map_of_mem (key_mem_quartetOrder key))
  unfold takeBack
  rw [if_pos hmem, unlink_file hcontent]

variable (release names) in
/-- What holds while no call wipes the staging directory of another. -/
structure Sound (w : World ι) : Prop where
  orderly : ∀ i, Orderly release (names i) (w.runs i)
  staged : Staged release w
  published : Published release names w

theorem initial_sound (fs : Files) : Sound release names (initial release fs) where
  orderly _ := start_orderly
  staged :=
    { alone := fun _ _ h => Bool.noConfusion h
      present := fun _ h => Bool.noConfusion h
      produced := fun _ h => Bool.noConfusion h
      unshared := fun _ h => Phase.noConfusion h }
  published :=
    { kept := fun _ _ _ h => h
      own := fun _ _ h => absurd h List.not_mem_nil
      free := fun _ _ h => absurd h List.not_mem_nil
      apart := fun _ _ h => absurd h List.not_mem_nil
      rest := fun _ _ _ h => .inl h }

variable [DecidableEq ι]

/-- Outside the builder's turn what was written stays what was written. -/
theorem after_bytes (hwrote : s'.wrote = (w.runs i).wrote)
    (hsources : s'.sources = (w.runs i).sources) (j : ι) (key : Key) :
    ((w.after i s' fs').runs j).wrote (((w.after i s' fs').runs j).sources key) =
      (w.runs j).wrote ((w.runs j).sources key) := by
  by_cases hji : j = i
  · rw [hji, after_self, hwrote, hsources]
  · rw [after_other hji]

theorem mem_held_linked {key key' : Key} {j : ι} (hheld : s'.held = (w.runs i).held ++ [key])
    (hkey : key' ∈ ((w.after i s' fs').runs j).held) :
    key' ∈ (w.runs j).held ∨ j = i ∧ key' = key := by
  by_cases hji : j = i
  · rw [hji, after_self, hheld] at hkey
    cases List.mem_append.mp hkey with
    | inl hold => exact .inl (hji ▸ hold)
    | inr hnew => exact .inr ⟨hji, List.mem_singleton.mp hnew⟩
  · rw [after_other hji] at hkey
    exact .inl hkey

theorem apart_linked {key : Key} (h : Apart release names w)
    (hheld : s'.held = (w.runs i).held ++ [key])
    (hne : ∀ j, ∀ key' ∈ (w.runs j).held,
      release.destination (names j) key' ≠ release.destination (names i) key) :
    Apart release names (w.after i s' fs') := by
  intro j key' hkey j' key'' hkey' hsame
  cases mem_held_linked hheld hkey with
  | inl hold =>
    cases mem_held_linked hheld hkey' with
    | inl hold' => exact h j key' hold j' key'' hold' hsame
    | inr hnew' =>
      rw [hnew'.1, hnew'.2] at hsame
      exact absurd hsame (hne j key' hold)
  | inr hnew =>
    cases mem_held_linked hheld hkey' with
    | inl hold' =>
      rw [hnew.1, hnew.2] at hsame
      exact absurd hsame.symm (hne j' key'' hold')
    | inr hnew' => exact ⟨hnew.1.trans hnew'.1.symm, hnew.2.trans hnew'.2.symm⟩

/-- After a rollback step what is held has another place than what was given up. -/
theorem mem_held_tookBack {held : List Key} {key key' : Key} {j : ι} (h : Apart release names w)
    (ho : Orderly release (names i) (w.runs i)) (hheld : (w.runs i).held = held ++ [key])
    (hs' : s'.held = held) (hkey' : key' ∈ ((w.after i s' fs').runs j).held) :
    key' ∈ (w.runs j).held ∧
      release.destination (names j) key' ≠ release.destination (names i) key := by
  have hkey : key ∈ (w.runs i).held := by rw [hheld]; simp
  have hnodup : key ∉ held := by
    have hwhole := quartetOrder_nodup.sublist (held_begins ho.tidy).sublist
    rw [hheld, List.nodup_append] at hwhole
    exact fun hmem => hwhole.2.2 key hmem key (List.mem_singleton_self key) rfl
  by_cases hji : j = i
  · rw [hji, after_self, hs'] at hkey'
    have hold : key' ∈ (w.runs i).held := hheld ▸ List.mem_append_left [key] hkey'
    refine ⟨hji ▸ hold, fun hsame => ?_⟩
    rw [hji] at hsame
    exact hnodup ((h i key' hold i key hkey hsame).2 ▸ hkey')
  · rw [after_other hji] at hkey'
    exact ⟨hkey', fun hsame => hji (h j key' hkey' i key hkey hsame).1⟩

/-- A step that changes nothing outside the staging directory but the directories above it. -/
theorem published_outside (h : Published release names w) (hheld : s'.held = (w.runs i).held)
    (hbytes : ∀ key ∈ (w.runs i).held,
      s'.wrote (s'.sources key) = (w.runs i).wrote ((w.runs i).sources key))
    (hstays : ∀ p, release.Outside p → ∀ k, w.fs.content p = some k →
      fs'.content p = some k)
    (hnew : ∀ p, release.Outside p → ∀ k, fs'.content p = some k →
      w.fs.content p = some k ∨ (k = .directory ∧ release.owned.parents.contains p = true)) :
    Published release names (w.after i s' fs') := by
  have hsame (j : ι) : ((w.after i s' fs').runs j).held = (w.runs j).held := by
    by_cases hji : j = i
    · rw [hji, after_self, hheld]
    · rw [after_other hji]
  constructor
  case kept => exact fun p hp k hk => hstays p hp k (h.kept p hp k hk)
  case own =>
    intro j key hkey
    rw [hsame j] at hkey
    obtain ⟨bytes, hwrote, hcontent⟩ := h.own j key hkey
    refine ⟨bytes, ?_, hstays _ (destination_outside release (names j) key) _ hcontent⟩
    by_cases hji : j = i
    · cases hji
      rw [after_self, hbytes key hkey, hwrote]
    · rw [after_other hji, hwrote]
  case free =>
    intro j key hkey
    rw [hsame j] at hkey
    exact h.free j key hkey
  case apart =>
    intro j key hkey j' key' hkey'
    rw [hsame j] at hkey
    rw [hsame j'] at hkey'
    exact h.apart j key hkey j' key' hkey'
  case rest =>
    intro p hp k hk
    cases hnew p hp k hk with
    | inr hdirectory => exact .inr (.inl hdirectory)
    | inl hbefore =>
      refine (h.rest p hp k hbefore).imp_right (Or.imp_right ?_)
      rintro ⟨j, key, hkey, hpath⟩
      exact ⟨j, key, (hsame j).symm ▸ hkey, hpath⟩

/-- As `published_outside`, where nothing at all changes outside the staging directory. -/
theorem published_inside (h : Published release names w) (hheld : s'.held = (w.runs i).held)
    (hbytes : ∀ key ∈ (w.runs i).held,
      s'.wrote (s'.sources key) = (w.runs i).wrote ((w.runs i).sources key))
    (hcontent : ∀ p, release.Outside p → fs'.content p = w.fs.content p) :
    Published release names (w.after i s' fs') :=
  published_outside h hheld hbytes (fun p hp _ hk => (hcontent p hp).trans hk)
    (fun p hp _ hk => .inl ((hcontent p hp).symm.trans hk))

theorem published_made (h : Published release names w) (hsafe : release.safeOwned = true) :
    Published release names (w.after i { w.runs i with phase := .building }
      ((w.fs.removeAll release.owned.inside).addDirectories (madeDirectory release w.fs))) := by
  have hinside (p : PurePath) (hp : release.Outside p) : release.owned.inside p = false := by
    rw [PurePath.inside, hp hsafe, Bool.false_and]
  have howned {p : PurePath} (hp : release.Outside p) : p ≠ release.owned := fun hpo => by
    cases owned_under.symm.trans (hpo ▸ hp hsafe)
  refine published_outside h rfl (fun _ _ => rfl) (fun p hp k hk => ?_) (fun p hp k hk => ?_)
  · rw [content_addDirectories, if_neg, content_removeAll, hinside p hp]
    · exact hk
    · intro hmade
      simp only [madeDirectory, Bool.or_eq_true, beq_iff_eq, Bool.and_eq_true,
        Option.isNone_iff_eq_none] at hmade
      cases hmade with
      | inl hpo => exact absurd hpo (howned hp)
      | inr hparent =>
        rw [content_eq_none.mpr hparent.2] at hk
        cases hk
  · rw [content_addDirectories] at hk
    split at hk
    next hmade =>
      simp only [madeDirectory, Bool.or_eq_true, beq_iff_eq, Bool.and_eq_true] at hmade
      cases hmade with
      | inl hpo => exact absurd hpo (howned hp)
      | inr hparent => exact .inr ⟨(Option.some.inj hk).symm, hparent.1⟩
    · rw [content_removeAll, hinside p hp] at hk
      exact .inl hk

theorem published_linked (h : Published release names w) (hst : Staged release w)
    (ho : ∀ j, Orderly release (names j) (w.runs j)) {key : Key} {rest : List Key}
    (hphase : (w.runs i).phase = .linking key rest)
    (hsource : w.fs.content ((w.runs i).sources key) ≠ none ∧
      w.fs.content ((w.runs i).sources key) ≠ some .directory)
    (hfree : w.fs.names (release.destination (names i) key) = none)
    (hheld : s'.held = (w.runs i).held ++ [key]) (hwrote : s'.wrote = (w.runs i).wrote)
    (hsources : s'.sources = (w.runs i).sources) :
    Published release names (w.after i s' (w.fs.copyName ((w.runs i).sources key)
      (release.destination (names i) key))) := by
  obtain ⟨bytes, hbytes, hbuilt⟩ := produced_source hst (ho i) hphase hsource
  have houtside := destination_outside release (names i) key
  have hcontent := content_copyName w.fs ((w.runs i).sources key)
    (release.destination (names i) key)
  have hother {p : PurePath} {k : Content PurePath Bytes} (hk : w.fs.content p = some k) :
      p ≠ release.destination (names i) key := ne_of_free hk hfree
  constructor
  case kept =>
    intro p hp k hk
    have hbefore := h.kept p hp k hk
    exact (hcontent p).trans ((Function.update_of_ne (hother hbefore) _ _).trans hbefore)
  case own =>
    intro j key' hkey
    cases mem_held_linked hheld hkey with
    | inl hold =>
      obtain ⟨bytes', hwrote', hcontent'⟩ := h.own j key' hold
      exact ⟨bytes', (after_bytes hwrote hsources j key').trans hwrote',
        (hcontent _).trans ((Function.update_of_ne (hother hcontent') _ _).trans hcontent')⟩
    | inr hnew =>
      rw [hnew.1, hnew.2]
      exact ⟨bytes, (after_bytes hwrote hsources i key).trans hbuilt,
        (hcontent _).trans ((Function.update_self _ _ _).trans hbytes)⟩
  case free =>
    intro j key' hkey
    cases mem_held_linked hheld hkey with
    | inl hold => exact h.free j key' hold
    | inr hnew =>
      rw [hnew.1, hnew.2]
      cases hothers : w.others (release.destination (names i) key) with
      | none => exact hothers
      | some k => exact absurd rfl (hother (h.kept _ houtside k hothers))
  case apart =>
    refine apart_linked h.apart hheld (fun j key' hkey => ?_)
    obtain ⟨_, _, hcontent'⟩ := h.own j key' hkey
    exact hother hcontent'
  case rest =>
    intro p hp k hk
    have hin {j : ι} {key' : Key} (hkey : key' ∈ (w.runs j).held) :
        key' ∈ ((w.after i s' (w.fs.copyName ((w.runs i).sources key)
          (release.destination (names i) key))).runs j).held := by
      by_cases hji : j = i
      · rw [hji] at hkey ⊢
        rw [after_self, hheld]
        exact List.mem_append_left _ hkey
      · rwa [after_other hji]
    by_cases hpd : p = release.destination (names i) key
    · refine .inr (.inr ⟨i, key, ?_, hpd⟩)
      rw [after_self, hheld]
      exact List.mem_append_right _ (List.mem_singleton_self key)
    · have hbefore := ((Function.update_of_ne hpd _ _).symm.trans (hcontent p).symm).trans hk
      refine (h.rest p hp k hbefore).imp_right (Or.imp_right ?_)
      rintro ⟨j, key', hkey, hpath⟩
      exact ⟨j, key', hin hkey, hpath⟩

/-- A rollback step gives up the last key the call holds. -/
theorem published_tookBack (h : Published release names w)
    (ho : ∀ j, Orderly release (names j) (w.runs j)) {held : List Key} {key : Key}
    (hheld : (w.runs i).held = held ++ [key]) (hs' : s'.held = held)
    (hwrote : s'.wrote = (w.runs i).wrote) (hsources : s'.sources = (w.runs i).sources) :
    Published release names
      (w.after i s' (w.fs.removeName (release.destination (names i) key))) := by
  have hkey : key ∈ (w.runs i).held := by rw [hheld]; simp
  have hcontent := content_removeName w.fs (release.destination (names i) key)
  have hmem {j : ι} {key' : Key} (hkey' : key' ∈ ((w.after i s'
      (w.fs.removeName (release.destination (names i) key))).runs j).held) :=
    mem_held_tookBack h.apart (ho i) hheld hs' hkey'
  constructor
  case kept =>
    intro p hp k hk
    have hne : p ≠ release.destination (names i) key := fun hpd => by
      have hfree := (h.free i key hkey).symm.trans (hpd ▸ hk)
      cases hfree
    exact (hcontent p).trans ((Function.update_of_ne hne _ _).trans (h.kept p hp k hk))
  case own =>
    intro j key' hkey'
    obtain ⟨hold, hne⟩ := hmem hkey'
    obtain ⟨bytes, hbytes, hbefore⟩ := h.own j key' hold
    exact ⟨bytes, (after_bytes hwrote hsources j key').trans hbytes,
      (hcontent _).trans ((Function.update_of_ne hne _ _).trans hbefore)⟩
  case free => exact fun j key' hkey' => h.free j key' (hmem hkey').1
  case apart =>
    exact fun j key' hkey' j' key'' hkey'' hsame =>
      h.apart j key' (hmem hkey').1 j' key'' (hmem hkey'').1 hsame
  case rest =>
    intro p hp k hk
    have hne : p ≠ release.destination (names i) key := fun hpd => by
      rw [hpd] at hk
      cases ((hcontent _).trans (Function.update_self _ _ _)).symm.trans hk
    have hbefore := ((Function.update_of_ne hne _ _).symm.trans (hcontent p).symm).trans hk
    refine (h.rest p hp k hbefore).imp_right (Or.imp_right ?_)
    rintro ⟨j, key', hkey', hpath⟩
    refine ⟨j, key', ?_, hpath⟩
    by_cases hji : j = i
    · rw [hji] at hkey' hpath ⊢
      rw [after_self, hs']
      rw [hheld] at hkey'
      cases List.mem_append.mp hkey' with
      | inl hstill => exact hstill
      | inr hlast =>
        rw [List.mem_singleton.mp hlast] at hpath
        exact absurd hpath hne
    · rwa [after_other hji]

theorem published_turn (h : Published release names w) (hst : Staged release w)
    (ho : ∀ j, Orderly release (names j) (w.runs j))
    (heffect : Effect release (names i) w.fs (w.runs i) e s' fs') :
    Published release names (w.after i s' fs') := by
  have hempty (hearly : (w.runs i).phase.early = true) {key : Key}
      (hkey : key ∈ (w.runs i).held) : False := by
    rw [held_of_early (ho i) hearly] at hkey
    cases hkey
  cases heffect with
  | quiet phase => exact published_inside h rfl (fun _ _ => rfl) (fun _ _ => rfl)
  | wiped hphase =>
    refine published_inside h rfl (fun _ _ => rfl) (fun p hp => ?_)
    rw [content_removeAll, hp ((ho i).checked (by rw [hphase]; rfl))]
    rfl
  | made hphase hfree => exact published_made h ((ho i).checked (by rw [hphase]; rfl))
  | wrote path bytes fs' hphase hpath hwrite =>
    refine published_inside h rfl
      (fun _ hkey => (hempty (by rw [hphase]; rfl) hkey).elim) (fun p hp => ?_)
    rw [content_write hwrite (hst.unshared i hphase) hpath, Function.update_of_ne]
    intro hpp
    exact outside_ne (ho i) (by rw [hphase]; rfl) hp hpath hpp
  | madeDirectory path hphase hpath =>
    refine published_inside h rfl (fun _ _ => rfl) (fun p hp => ?_)
    rw [content_addDirectories, if_neg]
    intro hpp
    exact outside_ne (ho i) (by rw [hphase]; rfl) hp hpath (beq_iff_eq.mp hpp)
  | removed path hphase hpath =>
    refine published_inside h rfl (fun _ _ => rfl) (fun p hp => ?_)
    rw [content_removeAll, if_neg]
    intro hunder
    have hp' := hp ((ho i).checked (by rw [hphase]; rfl))
    cases (under_trans (under_of_inside hpath) hunder).symm.trans hp'
  | built sources hphase hsources =>
    exact published_inside h rfl
      (fun _ hkey => (hempty (by rw [hphase]; rfl) hkey).elim) (fun _ _ => rfl)
  | linked key rest hphase hsource hfree =>
    exact published_linked h hst ho hphase hsource hfree rfl rfl rfl
  | unlinked key rest hphase =>
    refine published_inside h rfl (fun _ _ => rfl) (fun p hp => ?_)
    rw [content_removeName, Function.update_of_ne]
    intro hpp
    exact outside_ne (ho i) (by rw [hphase]; rfl) hp ((ho i).built (by rw [hphase]; rfl) key) hpp
  | tookBack destination last rest error hphase =>
    obtain ⟨held, key, hheld, hdestination, _⟩ := tidy_tookBack hphase (ho i).tidy
    have hkey : key ∈ (w.runs i).held := by rw [hheld]; simp
    rw [hdestination, takeBack_held h hkey]
    refine published_tookBack h ho hheld ?_ rfl rfl
    show (w.runs i).held.dropLast = held
    rw [hheld, List.dropLast_concat]

theorem orderly_turn (ho : ∀ j, Orderly release (names j) (w.runs j))
    (heffect : Effect release (names i) w.fs (w.runs i) e s' fs') (j : ι) :
    Orderly release (names j) ((w.after i s' fs').runs j) := by
  by_cases hji : j = i
  · rw [hji, after_self]
    exact effect_orderly heffect (ho i)
  · rw [after_other hji]
    exact ho j

theorem turn_sound {t : ι × Event} {w' : World ι} (h : Sound release names w)
    (hcond : NoLiveWipe release w t) (hturn : turn release names w t = some w') :
    Sound release names w' := by
  obtain ⟨s', fs', hw', heffect⟩ := turn_effect hturn
  cases t with
  | mk i e =>
    rw [hw']
    exact ⟨orderly_turn h.orderly heffect, staged_turn h.staged (h.orderly i) hcond heffect,
      published_turn h.published h.staged h.orderly heffect⟩

end Turns

end AttestationSdk.Transaction
