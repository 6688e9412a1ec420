import AttestationSdk.QuartetPromotion

/-! Calls of `transaction.run` for one release, interleaved operation by operation. -/
namespace AttestationSdk.Transaction
open LinkedFiles

section Properties
variable {ι : Type} (release : Release) (names : ι → DestinationNames)

/-- A call that returned has promoted what its own builder wrote. -/
def Unmixed (w : World ι) : Prop :=
  ∀ i, (w.runs i).phase = .returned → ∀ key, ∃ bytes,
    (w.runs i).wrote ((w.runs i).sources key) = some bytes ∧
      w.fs.content (release.destination (names i) key) = some (.file bytes)

/-- What a call has promoted is there until the call itself takes it back. -/
def NoneRemoved (w : World ι) : Prop :=
  ∀ i, ∀ key ∈ (w.runs i).held, w.fs.names (release.destination (names i) key) ≠ none

end Properties

section Names
variable {release : Release} {fs fs' : Files} {p q : PurePath}

theorem write_names {bytes : Bytes} (hwrite : fs.write p bytes = some fs')
    (hq : fs.names q ≠ none) : fs'.names q ≠ none := by
  unfold FileSystem.write at hwrite
  split at hwrite
  · cases hwrite
    by_cases hqp : q = p
    · rw [hqp]
      simp [FileSystem.createFile]
    · simpa [FileSystem.createFile, hqp] using hq
  · cases hwrite
    exact hq
  · cases hwrite

theorem addDirectories_names_ne {R : PurePath → Bool} (hq : fs.names q ≠ none) :
    (fs.addDirectories R).names q ≠ none := by
  rw [addDirectories_names]
  split
  · exact Option.some_ne_none _
  · exact hq

theorem removeAll_names_ne {R : PurePath → Bool} (hR : R q = false) (hq : fs.names q ≠ none) :
    (fs.removeAll R).names q ≠ none := by
  rw [removeAll_names, hR]
  exact hq

theorem removeName_names_ne (hqp : q ≠ p) (hq : fs.names q ≠ none) :
    (fs.removeName p).names q ≠ none :=
  removeAll_names_ne (beq_eq_false_iff_ne.mpr hqp) hq

end Names

section Turns
variable {ι : Type} [DecidableEq ι] {release : Release} {names : ι → DestinationNames}
  {w : World ι} {i : ι} {e : Event} {s' : RunState} {fs' : Files}

/-- Where the call's step leaves every place outside the staging directory taken, nothing that is
held is removed. -/
theorem standing_keep (h : NoneRemoved release names w ∧ Apart release names w)
    (hheld : ∀ key ∈ s'.held, key ∈ (w.runs i).held)
    (hnames : ∀ j, ∀ key ∈ ((w.after i s' fs').runs j).held,
      w.fs.names (release.destination (names j) key) ≠ none →
        fs'.names (release.destination (names j) key) ≠ none) :
    NoneRemoved release names (w.after i s' fs') ∧ Apart release names (w.after i s' fs') := by
  have hmem {j : ι} {key : Key} (hkey : key ∈ ((w.after i s' fs').runs j).held) :
      key ∈ (w.runs j).held := by
    by_cases hji : j = i
    · rw [hji, after_self] at hkey
      exact hji ▸ hheld key hkey
    · rwa [after_other hji] at hkey
  constructor
  · exact fun j key hkey => hnames j key hkey (h.1 j key (hmem hkey))
  · exact fun j key hkey j' key' hkey' hsame =>
      h.2 j key (hmem hkey) j' key' (hmem hkey') hsame

theorem standing_linked (h : NoneRemoved release names w ∧ Apart release names w) {key : Key}
    (hsource : w.fs.content ((w.runs i).sources key) ≠ none)
    (hfree : w.fs.names (release.destination (names i) key) = none)
    (hheld : s'.held = (w.runs i).held ++ [key])
    (hfs' : fs' = w.fs.copyName ((w.runs i).sources key) (release.destination (names i) key)) :
    NoneRemoved release names (w.after i s' fs') ∧ Apart release names (w.after i s' fs') := by
  have hne {j : ι} {key' : Key} (hkey : key' ∈ (w.runs j).held) :
      release.destination (names j) key' ≠ release.destination (names i) key :=
    fun hsame => h.1 j key' hkey (hsame ▸ hfree)
  constructor
  · intro j key' hkey
    rw [World.after, hfs']
    cases mem_held_linked hheld hkey with
    | inl hold =>
      show Function.update w.fs.names _ _ _ ≠ none
      rw [Function.update_of_ne (hne hold)]
      exact h.1 j key' hold
    | inr hnew =>
      rw [hnew.1, hnew.2]
      show Function.update w.fs.names _ _ _ ≠ none
      rw [Function.update_self]
      exact fun hnone => hsource (content_eq_none.mpr hnone)
  · exact apart_linked h.2 hheld (fun j key' hkey => hne hkey)

/-- Whatever the order, no call takes away what another one has promoted. -/
theorem standing_turn (h : NoneRemoved release names w ∧ Apart release names w)
    (ho : ∀ j, Orderly release (names j) (w.runs j))
    (heffect : Effect release (names i) w.fs (w.runs i) e s' fs') :
    NoneRemoved release names (w.after i s' fs') ∧ Apart release names (w.after i s' fs') := by
  cases heffect with
  | quiet phase => exact standing_keep h (fun _ => id) (fun _ _ _ => id)
  | wiped hphase =>
    refine standing_keep h (fun _ => id) (fun j key _ => removeAll_names_ne ?_)
    exact destination_outside release (names j) key ((ho i).checked (by rw [hphase]; rfl))
  | made hphase hfree =>
    refine standing_keep h (fun _ => id)
      (fun j key _ hkey => addDirectories_names_ne (removeAll_names_ne ?_ hkey))
    have houtside := destination_outside release (names j) key
      ((ho i).checked (by rw [hphase]; rfl))
    rw [PurePath.inside, houtside, Bool.false_and]
  | wrote path bytes fs' hphase hpath hwrite =>
    exact standing_keep h (fun _ => id) (fun _ _ _ => write_names hwrite)
  | madeDirectory path hphase hpath =>
    exact standing_keep h (fun _ => id) (fun _ _ _ => addDirectories_names_ne)
  | removed path hphase hpath =>
    refine standing_keep h (fun _ => id) (fun j key _ => removeAll_names_ne ?_)
    rw [Bool.eq_false_iff]
    intro hunder
    have houtside := destination_outside release (names j) key
      ((ho i).checked (by rw [hphase]; rfl))
    cases (under_trans (under_of_inside hpath) hunder).symm.trans houtside
  | built sources hphase hsources => exact standing_keep h (fun _ => id) (fun _ _ _ => id)
  | linked key rest hphase hsource hfree =>
    exact standing_linked h hsource.1 hfree rfl rfl
  | unlinked key rest hphase =>
    refine standing_keep h (fun _ => id) (fun j key' _ => removeName_names_ne ?_)
    exact outside_ne (ho i) (by rw [hphase]; rfl) (destination_outside release (names j) key')
      ((ho i).built (by rw [hphase]; rfl) key)
  | tookBack destination last rest error hphase =>
    obtain ⟨held, key, hheld, hdestination, _⟩ := tidy_tookBack hphase (ho i).tidy
    have hs' : (w.runs i).held.dropLast = held := by rw [hheld, List.dropLast_concat]
    refine standing_keep h (fun key' hkey' => List.mem_of_mem_dropLast hkey')
      (fun j key' hkey' hthere => ?_)
    have hne := (mem_held_tookBack h.2 (ho i) hheld hs' hkey').2
    cases takeBack_cases release w.fs (names i) destination with
    | inl hsame =>
      rw [hsame]
      exact hthere
    | inr hremoved =>
      rw [hremoved]
      exact removeName_names_ne (hdestination ▸ hne) hthere

variable (release names) in
/-- What holds in whatever order the calls take their turns. -/
structure Standing (w : World ι) : Prop where
  orderly : ∀ i, Orderly release (names i) (w.runs i)
  there : NoneRemoved release names w ∧ Apart release names w

theorem turn_standing {t : ι × Event} {w' : World ι} (h : Standing release names w)
    (hturn : turn release names w t = some w') : Standing release names w' := by
  obtain ⟨s', fs', hw', heffect⟩ := turn_effect hturn
  rw [hw']
  exact ⟨orderly_turn h.orderly heffect, standing_turn h.there h.orderly heffect⟩

omit [DecidableEq ι] in
theorem initial_standing (fs : Files) : Standing release names (initial release fs) where
  orderly _ := start_orderly
  there :=
    ⟨fun _ _ h => absurd h List.not_mem_nil, fun _ _ h => absurd h List.not_mem_nil⟩

theorem run_standing {turns : List (ι × Event)} {fs : Files}
    (hrun : StepRuns.run (turn release names) turns (initial release fs) = some w) :
    Standing release names w :=
  StepRuns.run_inv (fun _ _ _ h _ hturn => turn_standing h hturn) hrun
    (StepRuns.allMeet_of_forall (fun _ _ => trivial) turns _) (initial_standing fs)

/-- While no call wipes the staging directory of a call that has created it and has links left to
make, every call that returns has promoted its own quartet. No call ever removes a file of
another one. -/
theorem concurrent_quartets {turns : List (ι × Event)} {fs : Files}
    (hrun : StepRuns.run (turn release names) turns (initial release fs) = some w) :
    NoneRemoved release names w ∧
      (StepRuns.AllMeet (turn release names) (NoLiveWipe release) turns (initial release fs) →
        Unmixed release names w) := by
  refine ⟨(run_standing hrun).there.1, fun hcond i hreturned key => ?_⟩
  have hsound : Sound release names w :=
    StepRuns.run_inv (fun _ _ _ h hcond hturn => turn_sound h hcond hturn) hrun hcond
      (initial_sound fs)
  have htidy := (hsound.orderly i).tidy
  unfold Tidy at htidy
  rw [hreturned] at htidy
  have hheld : (w.runs i).held = quartetOrder := htidy
  exact hsound.published.own i key (hheld ▸ key_mem_quartetOrder key)

end Turns

section Samples

instance decidableNoLiveWipe (release : Release) (w : World Bool) (t : Bool × Event) :
    Decidable (NoLiveWipe release w t) :=
  inferInstanceAs (Decidable (t.2 = .proceed → (w.runs t.1).phase = .wiping →
    (w.fs.leadsTo release.owned).isSome = true →
      ∀ j, j ≠ t.1 → (w.runs j).phase.live = false))

def sampleTurn : World Bool → Bool × Event → Option (World Bool) :=
  turn sampleRelease (fun _ => sampleNames)

def turnsOf (call : Bool) (events : List Event) : List (Bool × Event) :=
  events.map (fun e => (call, e))

/-- The second call passes its destination check, then the first one runs to its end. -/
def patientTurns : List (Bool × Event) :=
  turnsOf false (List.replicate 7 .proceed) ++ turnsOf true sampleEvents ++
    turnsOf false (List.replicate 2 .proceed ++ sampleBuild [2] ++ List.replicate 8 .proceed)

theorem patient_quartets : ∃ w, StepRuns.run sampleTurn patientTurns
      (initial sampleRelease noFiles) = some w ∧ (w.runs true).phase = .returned ∧
    NoneRemoved sampleRelease (fun _ => sampleNames) w ∧
      Unmixed sampleRelease (fun _ => sampleNames) w := by
  have hreturned : (StepRuns.run sampleTurn patientTurns (initial sampleRelease noFiles)).any
      (fun w => decide ((w.runs true).phase = .returned)) = true := by
    decide +kernel
  have hcond : StepRuns.AllMeet sampleTurn (NoLiveWipe sampleRelease) patientTurns
      (initial sampleRelease noFiles) := by
    decide +kernel
  obtain ⟨w, hrun, hphase⟩ := (Option.any_eq_true _ _).mp hreturned
  have hboth := concurrent_quartets hrun
  exact ⟨w, hrun, of_decide_eq_true hphase, hboth.1, hboth.2 hcond⟩

/-- The second call wipes the staging directory when the first one has promoted one file. -/
def rivalTurns : List (Bool × Event) :=
  turnsOf false (List.replicate 7 .proceed) ++
    turnsOf true (List.replicate 9 .proceed ++ sampleBuild [1] ++ List.replicate 9 .proceed) ++
    turnsOf false (List.replicate 2 .proceed ++ sampleBuild [2]) ++
    turnsOf true (List.replicate 9 .proceed)

/-- The first call returns with one file of its own and three of the second call's. -/
theorem mixed_quartet : ∃ w, StepRuns.run sampleTurn rivalTurns
      (initial sampleRelease noFiles) = some w ∧ (w.runs true).phase = .returned ∧
    w.fs.content (sampleRelease.destination sampleNames .archive) = some (.file [1]) ∧
    w.fs.content (sampleRelease.destination sampleNames .manifest) = some (.file [2]) ∧
      ¬ Unmixed sampleRelease (fun _ => sampleNames) w := by
  have hmixed : (StepRuns.run sampleTurn rivalTurns (initial sampleRelease noFiles)).any
      (fun w => decide ((w.runs true).phase = .returned ∧
        w.fs.content (sampleRelease.destination sampleNames .archive) = some (.file [1]) ∧
        w.fs.content (sampleRelease.destination sampleNames .manifest) = some (.file [2]) ∧
        (w.runs true).wrote ((w.runs true).sources .manifest) = some [1])) = true := by
    decide +kernel
  obtain ⟨w, hrun, hw⟩ := (Option.any_eq_true _ _).mp hmixed
  obtain ⟨hreturned, harchive, hmanifest, hwrote⟩ := of_decide_eq_true hw
  refine ⟨w, hrun, hreturned, harchive, hmanifest, fun hunmixed => ?_⟩
  obtain ⟨bytes, hbytes, hcontent⟩ := hunmixed true hreturned .manifest
  rw [hwrote] at hbytes
  cases hbytes
  cases hcontent.symm.trans hmanifest

end Samples

end AttestationSdk.Transaction
