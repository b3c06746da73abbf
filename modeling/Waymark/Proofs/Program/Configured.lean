import Waymark.Program.Run
import Waymark.Proofs.Program.Saving

/-!
# The settings that `config` keeps

The command `config` behaves as if the settings were kept in memory: they start as the default ones,
`--reset` puts them back, a key with a value changes them if that is accepted and can be saved, and
nothing else does (`Answered.kept`, `Answered.reset`, `Answered.changed`). Whatever the file has is
the text of these settings, and they are what is shown. A command that fails leaves the file as it
was. This holds for any sequence of calls (`config_keeps`), since each call finds what the one before
it has left (`Stored`).
-/

namespace Waymark.Program

open Settings

/-- The arguments of `config` are understood as these options. -/
def Asks (call : List String) (o : ConfigOptions) : Prop :=
  read ("config" :: call) = .run (.config o)

/-- What a call of `config` does to a world, and how it ends. -/
def callConfig (path : String) (call : List String) (w : World) : Ending × World :=
  (run (World.host path) ("config" :: call)).run w

/-- The world after some calls of `config`. -/
def afterCalls (path : String) (w : World) (calls : List (List String)) : World :=
  calls.foldl (fun w call => (callConfig path call w).2) w

/-- What a call of `config` has to do with the settings before and after it. -/
structure Answered (path : String) (call : List String) (s s' : Settings) (w w' : World)
    (ending : Ending) : Prop where
  /-- Without `--reset` or a key with a value, or with `--path`, the settings stay the same. -/
  kept : (∀ o, Asks call o → o.path = true ∨ o.reset = false ∧ (o.key = none ∨ o.value = none)) →
    s' = s
  /-- With `--reset` they are the default ones. -/
  reset : ∀ o, Asks call o → o.path = false → o.reset = true → ending = .done ∧ s' = default
  /-- A key with a value changes them if that succeeds. It fails only if the change is not accepted or
  its result cannot be written. -/
  changed : ∀ o key value, Asks call o → o.path = false → o.reset = false → o.key = some key →
    o.value = some value →
      ending = .done ∧ s.set key value = .ok s' ∨
      (∃ e, ending = .failed e) ∧ s' = s ∧
        ∀ other, s.set key value = .ok other → other.text? = .error .unwritable
  /-- A file has exactly the text of the settings. -/
  file : ∀ bytes, w'.read path = .ok bytes → ∃ text, s'.text? = .ok text ∧ bytes = text.toUTF8
  /-- There is a file after every call that reads or changes the settings. -/
  filed : ∀ o, Asks call o → o.path = false → ∃ bytes, w'.read path = .ok bytes
  /-- A known key alone shows its value. -/
  value : ∀ key value, Asks call { key := some key } → s.get? key = some value →
    ending = .done ∧ w'.output = w.output ++ (value ++ "\n")
  /-- No argument shows the text of the settings. -/
  all : Asks call {} → ∃ text, s.text? = .ok text ∧ ending = .done ∧ w'.output = w.output ++ text
  /-- A call that is not carried out leaves an existing file as it is. -/
  failed : ending ≠ .done → ∀ bytes, w.read path = .ok bytes → w'.read path = .ok bytes

/-- The file has the text of some settings, or there is none and they are the default ones. -/
structure Stored (path : String) (s : Settings) (w : World) : Prop where
  /-- The settings are good. -/
  good : s.Good
  /-- The settings can be written. -/
  fits : s.Fits
  /-- The file has their text, unless it is missing. -/
  file : w.read path = .ok s.written.toUTF8 ∨
    w.read path = .error .notFound ∧ s = default

section Steps

variable {path : String} {s : Settings} {w : World}

/-- What is read from a file does not depend on the output. -/
theorem read_output (w : World) (output path : String) :
    ({ w with output } : World).read path = w.read path :=
  @World.read_congr w { w with output } rfl rfl rfl path

/-- What is written to a file is there after something was shown. -/
theorem read_write_output (hpath : IsFilePath path) (w : World) (text output : String) :
    ({ w.write path text with output } : World).read path = .ok text.toUTF8 :=
  (read_output _ _ _).trans (World.read_write hpath _ _)

/-- The settings are stored where their text is written. -/
theorem stored_write (hpath : IsFilePath path) (hgood : s.Good) (hfits : s.Fits) (w : World)
    (output : String) : Stored path s { w.write path s.written with output } :=
  ⟨hgood, hfits, .inl (read_write_output hpath w _ output)⟩

/-- The default settings fit. -/
theorem fits_default : default.Fits := by decide

/-- Where the settings are kept is known. -/
theorem run_path : ((World.host path).path).run.run w = (.ok path, w) := rfl

/-- Settings that fit are saved where they are kept. -/
theorem run_save_of_fits (h : s.Fits) : ((World.host path).save s).run.run w =
    (.ok (), (w.makeFolder path).write path s.written) :=
  (run_bind_of_ok run_path _).trans (run_saveTo_of_fits h)

/-- Settings that do not fit are not saved. -/
theorem run_save_of_not_fits (h : ¬ s.Fits) : ((World.host path).save s).run.run w =
    (.error (.settings .unwritable), w.makeFolder path) :=
  (run_bind_of_ok run_path _).trans (run_saveTo_of_not_fits h)

/-- Loading gives the settings that a file has, and changes nothing. -/
theorem run_load_of_read {bytes : ByteArray} (hread : w.read path = .ok bytes)
    (hbytes : ofBytes bytes = .ok s) : ((World.host path).load).run.run w = (.ok s, w) := by
  unfold Host.load
  rw [run_bind_of_ok run_path, run_bind_isThere, if_pos (World.isThere_of_read hread),
    run_loadFrom, hread, Host.settingsOf, hbytes]

/-- Where there is nothing, the default settings are saved and loaded. -/
theorem run_load_of_notFound (hnone : w.read path = .error .notFound) :
    ((World.host path).load).run.run w =
      (.ok default, (w.makeFolder path).write path default.written) := by
  unfold Host.load
  rw [run_bind_of_ok run_path, run_bind_isThere, World.isThere_of_notFound hnone]
  exact run_bind_of_ok (run_saveTo_of_fits fits_default) _

/-- Loading gives the settings that are stored. Afterwards there is a file with their text, and an
existing one was left as it is. -/
theorem run_load (hpath : IsFilePath path) (h : Stored path s w) :
    ∃ w₁, ((World.host path).load).run.run w = (.ok s, w₁) ∧ w₁.output = w.output ∧
      w₁.read path = .ok s.written.toUTF8 ∧
      (∀ bytes, w.read path = .ok bytes → w₁ = w) := by
  -- Without a file, the settings are the default ones, and these are what is written and loaded.
  rcases h.file with hfile | ⟨hnone, hs⟩
  · exact ⟨w, run_load_of_read hfile (ofBytes_written h.good h.fits), rfl, hfile, fun _ _ => rfl⟩
  · rw [hs]
    refine ⟨_, run_load_of_notFound hnone, rfl, World.read_write hpath _ _, fun bytes hbytes => ?_⟩
    cases hnone.symm.trans hbytes

/-- How a command ended that gave a result. -/
def endingOf : Except Error Unit → Ending
  | .ok _ => .done
  | .error e => .failed e

/-- What a call whose arguments are understood does. -/
theorem callConfig_of_asks {call : List String} {o : ConfigOptions} (h : Asks call o)
    {result : Except Error Unit} {w' : World}
    (hrun : (configure (World.host path) o).run.run w = (result, w')) :
    callConfig path call w = (endingOf result, w') := by
  have hrun : ((configure (World.host path) o).run).run w = (result, w') := hrun
  unfold callConfig run
  rw [h]
  show (((configure (World.host path) o).run >>= fun r => match r with
    | .ok _ => (return .done : StateM World Ending)
    | .error e => return .failed e).run w) = _
  rw [StateT.run_bind, hrun]
  cases result <;> rfl

/-- The settings stay stored when something is shown. -/
theorem Stored.output (h : Stored path s w) (output : String) :
    Stored path s { w with output } :=
  ⟨h.good, h.fits, by rw [read_output]; exact h.file⟩

end Steps

/-! ### What is kept -/

/-- Settings with a change, if it is accepted and can be saved. -/
def afterChange (s : Settings) (key value : String) : Settings :=
  match s.set key value with
  | .ok s' => if s'.Fits then s' else s
  | .error _ => s

/-- The settings that options make of some. -/
def ConfigOptions.made (o : ConfigOptions) (s : Settings) : Settings :=
  if o.path then s
  else if o.reset then default
  else match o.key, o.value with
    | some key, some value => afterChange s key value
    | _, _ => s

/-- The settings that a call makes of some. -/
def remember (s : Settings) (call : List String) : Settings :=
  match read ("config" :: call) with
  | .run (.config o) => o.made s
  | _ => s

/-- The settings after some calls. -/
def memory (calls : List (List String)) : Settings := calls.foldl remember default

/-- A change is accepted and can be saved, or the settings stay the same. -/
theorem afterChange_cases (s : Settings) (key value : String) :
    (s.set key value = .ok (afterChange s key value) ∧ (afterChange s key value).Fits) ∨
    (afterChange s key value = s ∧ ∀ s', s.set key value = .ok s' → ¬ s'.Fits) := by
  unfold afterChange
  cases hset : s.set key value with
  | error fault => exact .inr ⟨rfl, nofun⟩
  | ok s' =>
    by_cases hfits : s'.Fits
    · exact .inl (by simp [hfits])
    · exact .inr ⟨if_neg hfits, fun other hother => Except.ok.inj hother ▸ hfits⟩

/-- What options make of settings: the same for the path, the default ones, or the same with a change
that is accepted and can be saved. Without such a change they stay the same. -/
theorem ConfigOptions.made_cases (o : ConfigOptions) (s : Settings) :
    (o.path = true ∧ o.made s = s) ∨
    (o.path = false ∧ o.reset = true ∧ o.made s = default) ∨
    (o.path = false ∧ o.reset = false ∧ ∃ key value, o.key = some key ∧ o.value = some value ∧
      s.set key value = .ok (o.made s) ∧ (o.made s).Fits) ∨
    (o.path = false ∧ o.reset = false ∧ o.made s = s ∧
      ∀ key value, o.key = some key → o.value = some value →
        ∀ s', s.set key value = .ok s' → ¬ s'.Fits) := by
  match o with
  | ⟨_, _, true, _⟩ => exact .inl ⟨rfl, rfl⟩
  | ⟨_, _, false, true⟩ => exact .inr (.inl ⟨rfl, rfl, rfl⟩)
  | ⟨none, _, false, false⟩ => exact .inr (.inr (.inr ⟨rfl, rfl, rfl, nofun⟩))
  | ⟨some _, none, false, false⟩ => exact .inr (.inr (.inr ⟨rfl, rfl, rfl, nofun⟩))
  | ⟨some key, some value, false, false⟩ =>
    rcases afterChange_cases s key value with ⟨hset, hfits⟩ | ⟨hsame, hnot⟩
    · exact .inr (.inr (.inl ⟨rfl, rfl, key, value, rfl, rfl, hset, hfits⟩))
    · refine .inr (.inr (.inr ⟨rfl, rfl, hsame, ?_⟩))
      rintro _ _ ⟨⟩ ⟨⟩
      exact hnot

section Calls

variable {path : String} {s : Settings} {w : World} {call : List String} {o : ConfigOptions}

/-- A call is understood in one way only. -/
theorem Asks.eq {o' : ConfigOptions} (h : Asks call o) (h' : Asks call o') : o' = o := by
  have heq : Asked.run (.config o') = .run (.config o) := h'.symm.trans h
  cases heq
  rfl

/-- What a call makes of the settings is what its options make. -/
theorem Asks.remember (h : Asks call o) : remember s call = o.made s := by
  unfold Asks at h
  rw [Program.remember, h]

/-- The file has the text of settings that are stored. -/
theorem Stored.bytes (h : Stored path s w) {bytes : ByteArray} (hbytes : w.read path = .ok bytes) :
    ∃ text, s.text? = .ok text ∧ bytes = text.toUTF8 := by
  refine ⟨_, text?_of_fits h.fits, ?_⟩
  rcases h.file with hfile | ⟨hnone, -⟩
  · exact Except.ok.inj (hbytes.symm.trans hfile)
  · cases hbytes.symm.trans hnone

/-- A call that keeps the settings, and any file, is answered if it shows what it has to show and
fails whenever it should have changed something. -/
theorem Answered.of_kept (hasks : Asks call o) {w' : World} {ending : Ending}
    (hstored : Stored path s w')
    (hleft : ∀ bytes, w.read path = .ok bytes → w'.read path = .ok bytes)
    (hfiled : o.path = false → ∃ bytes, w'.read path = .ok bytes)
    (hreset : o.path = false → o.reset = false)
    (hchange : ∀ key value, o.path = false → o.key = some key → o.value = some value →
      (∃ e, ending = .failed e) ∧
        ∀ other, s.set key value = .ok other → other.text? = .error .unwritable)
    (hvalue : ∀ key value, o = { key := some key } → s.get? key = some value →
      ending = .done ∧ w'.output = w.output ++ (value ++ "\n"))
    (hall : o = {} → ∃ text, s.text? = .ok text ∧ ending = .done ∧ w'.output = w.output ++ text) :
    Answered path call s s w w' ending where
  kept _ := rfl
  reset o' h hpath' hreset' := by
    rw [hasks.eq h] at hpath' hreset'
    cases (hreset hpath').symm.trans hreset'
  changed o' key value h hpath' _ hkey hval := by
    rw [hasks.eq h] at hpath' hkey hval
    obtain ⟨hfailed, hother⟩ := hchange key value hpath' hkey hval
    exact .inr ⟨hfailed, rfl, hother⟩
  file _ := hstored.bytes
  filed o' h hpath' := hfiled (hasks.eq h ▸ hpath')
  value key value h := hvalue key value (hasks.eq h).symm
  all h := hall (hasks.eq h).symm
  failed _ := hleft

/-- A call that writes settings is answered if a reset or a change has made them. -/
theorem Answered.of_written (hasks : Asks call o) (ho : o.path = false) {s' : Settings}
    {w' : World} (hstored : Stored path s' w') (hfiled : ∃ bytes, w'.read path = .ok bytes)
    (hcause : o.reset = true ∧ s' = default ∨
      o.reset = false ∧ ∃ key value, o.key = some key ∧ o.value = some value ∧
        s.set key value = .ok s') :
    Answered path call s s' w w' .done where
  kept h := by
    rcases h o hasks with hpath | ⟨hreset, hnone⟩
    · cases ho.symm.trans hpath
    · rcases hcause with ⟨hyes, -⟩ | ⟨-, key, value, hkey, hvalue, -⟩
      · cases hyes.symm.trans hreset
      · simp [hkey, hvalue] at hnone
  reset o' h _ hyes := by
    rw [hasks.eq h] at hyes
    rcases hcause with ⟨-, hdefault⟩ | ⟨hno, -⟩
    · exact ⟨rfl, hdefault⟩
    · cases hno.symm.trans hyes
  changed o' key value h _ hno hkey hvalue := by
    rw [hasks.eq h] at hno hkey hvalue
    rcases hcause with ⟨hyes, -⟩ | ⟨-, key', value', hkey', hvalue', hset⟩
    · cases hyes.symm.trans hno
    · cases hkey'.symm.trans hkey
      cases hvalue'.symm.trans hvalue
      exact .inl ⟨rfl, hset⟩
  file _ := hstored.bytes
  filed _ _ _ := hfiled
  -- A call that shows something has neither a reset nor a value.
  value key value h := by
    rcases hcause with ⟨hyes, -⟩ | ⟨-, _, _, -, hvalue, -⟩
    · cases hasks.eq h ▸ hyes
    · cases hasks.eq h ▸ hvalue
  all h := by
    rcases hcause with ⟨hyes, -⟩ | ⟨-, _, _, -, hvalue, -⟩
    · cases hasks.eq h ▸ hyes
    · cases hasks.eq h ▸ hvalue
  failed h := absurd rfl h

/-- A call that is not to be carried out does nothing, and nothing is made of the settings. -/
theorem callConfig_of_not_asks (path : String) (s : Settings) (w : World)
    (hnone : ¬ ∃ o, Asks call o) :
    ∃ ending, callConfig path call w = (ending, w) ∧ remember s call = s := by
  have hread : read ("config" :: call) =
      conclude ConfigOptions.add {} .config (scan configOptions call) := rfl
  unfold Asks at hnone
  unfold callConfig run remember
  -- Of the ways in which arguments are understood, only options are to be carried out.
  rw [hread, conclude] at hnone ⊢
  split at hnone <;> try exact absurd ⟨_, rfl⟩ hnone
  all_goals exact ⟨_, rfl, rfl⟩

/-- A call that is not to be carried out is answered if it has no effect. -/
theorem Answered.of_nothing (h : Stored path s w) (hnone : ∀ o, ¬ Asks call o) (ending : Ending) :
    Answered path call s s w w ending where
  kept _ := rfl
  reset _ h := absurd h (hnone _)
  changed _ _ _ h := absurd h (hnone _)
  file _ := h.bytes
  filed _ h := absurd h (hnone _)
  value _ _ h := absurd h (hnone _)
  all h := absurd h (hnone _)
  failed _ _ := id

/-- The path of the file is shown. -/
theorem answered_of_path (h : Stored path s w) (hasks : Asks call o) (ho : o.path = true) :
    ∃ w', callConfig path call w = (.done, w') ∧ Answered path call s s w w' .done ∧
      Stored path s w' := by
  have hrun : (configure (World.host path) o).run.run w =
      (.ok (), { w with output := w.output ++ (path ++ "\n") }) := by
    unfold configure
    rw [if_pos ho]
    rfl
  have hstored := h.output (w.output ++ (path ++ "\n"))
  refine ⟨_, callConfig_of_asks hasks hrun, ?_, hstored⟩
  refine Answered.of_kept hasks hstored (fun bytes hbytes => ?_) (by simp [ho]) (by simp [ho])
    (by simp [ho]) ?_ ?_
  · rwa [read_output]
  · rintro _ _ rfl
    cases ho
  · rintro rfl
    cases ho

/-- The settings go back to the default ones. -/
theorem answered_of_reset (hpath : IsFilePath path) (w : World) (hasks : Asks call o)
    (ho : o.path = false) (hreset : o.reset = true) :
    ∃ w', callConfig path call w = (.done, w') ∧ Answered path call s default w w' .done ∧
      Stored path default w' := by
  have hrun : (configure (World.host path) o).run.run w =
      (.ok (), { (w.makeFolder path).write path default.written with
        output := w.output ++ "Configuration reset to defaults\n" }) := by
    unfold configure
    rw [if_neg (by simp [ho]), if_pos hreset]
    exact run_bind_of_ok (run_save_of_fits fits_default) _
  have hstored := stored_write hpath good_default fits_default (w.makeFolder path)
    (w.output ++ "Configuration reset to defaults\n")
  exact ⟨_, callConfig_of_asks hasks hrun,
    .of_written hasks ho hstored ⟨_, read_write_output hpath _ _ _⟩ (.inl ⟨hreset, rfl⟩), hstored⟩

/-- After loading, all settings are shown, or one of them is, or one is changed. -/
def afterLoad (path : String) (o : ConfigOptions) (s : Settings) :
    ExceptT Error (StateM World) Unit :=
  match o.key, o.value with
  | none, none => showAll (World.host path) s
  | some key, none => showValue (World.host path) s key
  | some key, some value => changeValue (World.host path) s key value
  | none, some _ => throw (.settings .valueWithoutKey)

/-- A call that reads or changes the settings goes on after loading them. -/
theorem run_configure_loaded (hpath : IsFilePath path) (h : Stored path s w) (ho : o.path = false)
    (hreset : o.reset = false) :
    ∃ w₁, (configure (World.host path) o).run.run w = (afterLoad path o s).run.run w₁ ∧
      w₁.output = w.output ∧
      w₁.read path = .ok s.written.toUTF8 ∧
      (∀ bytes, w.read path = .ok bytes → w₁ = w) := by
  obtain ⟨w₁, hload, hafter⟩ := run_load hpath h
  refine ⟨w₁, ?_, hafter⟩
  unfold configure
  rw [if_neg (by simp [ho]), if_neg (by simp [hreset])]
  exact run_bind_of_ok hload _

/-- All settings are shown. -/
theorem run_showAll (h : s.Fits) :
    (showAll (World.host path) s).run.run w =
      (.ok (), { w with output := w.output ++ s.written }) := by
  unfold showAll
  rw [text?_of_fits h]
  rfl

/-- The value of a known key is shown. -/
theorem run_showValue {key value : String} (h : s.get? key = some value) :
    (showValue (World.host path) s key).run.run w =
      (.ok (), { w with output := w.output ++ (value ++ "\n") }) := by
  unfold showValue
  rw [h]
  rfl

/-- A key that is not known has no value to show. -/
theorem run_showValue_none {key : String} (h : s.get? key = none) :
    (showValue (World.host path) s key).run.run w =
      (.error (.settings (.unlistedKey key)), w) := by
  unfold showValue
  rw [h]
  rfl

/-- A change that is accepted and can be saved is. -/
theorem run_changeValue {key value : String} {s' : Settings} (h : s.set key value = .ok s')
    (hfits : s'.Fits) :
    (changeValue (World.host path) s key value).run.run w =
      (.ok (), { (w.makeFolder path).write path s'.written with
        output := w.output ++ (key ++ " = " ++ value ++ "\n") }) := by
  unfold changeValue
  rw [h]
  exact run_bind_of_ok (run_save_of_fits hfits) _

/-- A change that is refused or cannot be saved fails, and nothing is written if there is a file. -/
theorem run_changeValue_of_not (hpath : IsFilePath path) {bytes : ByteArray}
    (hread : w.read path = .ok bytes) {key value : String}
    (h : ∀ s', s.set key value = .ok s' → ¬ s'.Fits) :
    ∃ e, (changeValue (World.host path) s key value).run.run w = (.error e, w) := by
  unfold changeValue
  cases hset : s.set key value with
  | error fault => exact ⟨_, rfl⟩
  | ok s' =>
    have hsave : ((World.host path).save s').run.run w =
        (.error (.settings .unwritable), w.makeFolder path) := run_save_of_not_fits (h s' hset)
    rw [World.makeFolder_of_read hpath hread] at hsave
    exact ⟨_, run_bind_of_error hsave _⟩

/-- A change that is accepted and can be saved is remembered. -/
theorem answered_of_changed (hpath : IsFilePath path) (h : Stored path s w) (hasks : Asks call o)
    (ho : o.path = false) (hreset : o.reset = false) {key value : String}
    (hkey : o.key = some key) (hvalue : o.value = some value) {s' : Settings}
    (hset : s.set key value = .ok s') (hfits : s'.Fits) :
    ∃ w', callConfig path call w = (.done, w') ∧ Answered path call s s' w w' .done ∧
      Stored path s' w' := by
  obtain ⟨w₁, hrun, -⟩ := run_configure_loaded hpath h ho hreset
  have hafter : afterLoad path o s = changeValue (World.host path) s key value := by
    rw [afterLoad, hkey, hvalue]
  rw [hafter, run_changeValue hset hfits] at hrun
  obtain ⟨-, -, -, hgood⟩ := set_eq_ok_iff.1 hset
  have hstored := stored_write hpath hgood hfits (w₁.makeFolder path)
    (w₁.output ++ (key ++ " = " ++ value ++ "\n"))
  exact ⟨_, callConfig_of_asks hasks hrun,
    .of_written hasks ho hstored ⟨_, read_write_output hpath _ _ _⟩
      (.inr ⟨hreset, key, value, hkey, hvalue, hset⟩), hstored⟩

/-- What is done after loading, unless it is a change that succeeds: nothing is written but output.
A change fails, and what was asked for is shown. -/
theorem run_afterLoad_of_kept (hpath : IsFilePath path) {bytes : ByteArray}
    (hread : w.read path = .ok bytes) (hfits : s.Fits)
    (hnot : ∀ key value, o.key = some key → o.value = some value →
      ∀ s', s.set key value = .ok s' → ¬ s'.Fits) :
    ∃ result output, (afterLoad path o s).run.run w = (result, { w with output }) ∧
      (∀ key value, o.key = some key → o.value = some value →
        ∃ e, endingOf result = .failed e) ∧
      (∀ key value, o = { key := some key } → s.get? key = some value →
        endingOf result = .done ∧ output = w.output ++ (value ++ "\n")) ∧
      (o = {} →
        endingOf result = .done ∧ output = w.output ++ s.written) := by
  -- What is done depends on whether there is a key and whether there is a value.
  obtain ⟨key, value, p, r⟩ := o
  cases key with
  | none =>
    cases value with
    | none => exact ⟨_, _, run_showAll hfits, nofun, nofun, fun _ => ⟨rfl, rfl⟩⟩
    | some value => exact ⟨_, _, rfl, nofun, nofun, nofun⟩
  | some key =>
    cases value with
    | none =>
      cases hget : s.get? key with
      | none =>
        refine ⟨_, _, run_showValue_none hget, nofun, fun key' value' heq hget' => ?_, nofun⟩
        cases heq
        cases hget.symm.trans hget'
      | some value =>
        refine ⟨_, _, run_showValue hget, nofun, fun key' value' heq hget' => ?_, nofun⟩
        cases heq
        cases hget.symm.trans hget'
        exact ⟨rfl, rfl⟩
    | some value =>
      obtain ⟨e, hrun⟩ := run_changeValue_of_not hpath hread (hnot key value rfl rfl)
      exact ⟨_, _, hrun, fun _ _ _ _ => ⟨e, rfl⟩, nofun, nofun⟩

/-- A call that reads the settings, or fails to change them, keeps them. -/
theorem answered_of_kept (hpath : IsFilePath path) (h : Stored path s w) (hasks : Asks call o)
    (ho : o.path = false) (hreset : o.reset = false)
    (hnot : ∀ key value, o.key = some key → o.value = some value →
      ∀ s', s.set key value = .ok s' → ¬ s'.Fits) :
    ∃ ending w', callConfig path call w = (ending, w') ∧ Answered path call s s w w' ending ∧
      Stored path s w' := by
  obtain ⟨w₁, hrun, houtput, hfile, hsame⟩ := run_configure_loaded hpath h ho hreset
  obtain ⟨result, output, hafter, hchange, hvalue, hall⟩ :=
    run_afterLoad_of_kept hpath hfile h.fits hnot
  have hread : ({ w₁ with output } : World).read path =
      .ok s.written.toUTF8 := (read_output _ _ _).trans hfile
  have hstored : Stored path s { w₁ with output } := ⟨h.good, h.fits, .inl hread⟩
  refine ⟨_, _, callConfig_of_asks hasks (hrun.trans hafter), ?_, hstored⟩
  refine Answered.of_kept hasks hstored (fun bytes hbytes => ?_) (fun _ => ⟨_, hread⟩)
    (fun _ => hreset) (fun key value _ hkey hval => ?_) (fun key value hopts hget => ?_)
    (fun hopts => ?_)
  · rw [read_output, hsame bytes hbytes]
    exact hbytes
  · exact ⟨hchange key value hkey hval, fun other hset =>
      text?_of_not_fits (hnot key value hkey hval other hset)⟩
  · exact houtput ▸ hvalue key value hopts hget
  · exact ⟨_, text?_of_fits h.fits, houtput ▸ hall hopts⟩

/-- Every call is answered, and leaves the settings stored that it makes of the stored ones. -/
theorem answered (hpath : IsFilePath path) (h : Stored path s w) (call : List String) :
    ∃ ending w', callConfig path call w = (ending, w') ∧
      Answered path call s (remember s call) w w' ending ∧ Stored path (remember s call) w' := by
  by_cases hasks : ∃ o, Asks call o
  · obtain ⟨o, hasks⟩ := hasks
    rw [hasks.remember]
    rcases o.made_cases s with ⟨ho, hmade⟩ | ⟨ho, hreset, hmade⟩ |
      ⟨ho, hreset, key, value, hkey, hvalue, hset, hfits⟩ | ⟨ho, hreset, hmade, hnot⟩
    · rw [hmade]
      exact ⟨_, answered_of_path h hasks ho⟩
    · rw [hmade]
      exact ⟨_, answered_of_reset hpath w hasks ho hreset⟩
    · exact ⟨_, answered_of_changed hpath h hasks ho hreset hkey hvalue hset hfits⟩
    · rw [hmade]
      exact answered_of_kept hpath h hasks ho hreset hnot
  · obtain ⟨ending, hcall, hmade⟩ := callConfig_of_not_asks path s w hasks
    rw [hmade]
    exact ⟨ending, w, hcall, .of_nothing h (not_exists.1 hasks) ending, h⟩

end Calls

/-- The world after one more call. -/
theorem afterCalls_append (path : String) (w : World) (before : List (List String))
    (call : List String) :
    afterCalls path w (before ++ [call]) = (callConfig path call (afterCalls path w before)).2 := by
  rw [afterCalls, List.foldl_append]
  rfl

/-- The settings after one more call. -/
theorem memory_append (before : List (List String)) (call : List String) :
    memory (before ++ [call]) = remember (memory before) call := by
  rw [memory, List.foldl_append]
  rfl

/-- If there is no file at first, the settings in memory are stored after any calls. -/
theorem stored_memory {path : String} (hpath : IsFilePath path) {w : World}
    (hfile : w.read path = .error .notFound) (calls : List (List String)) :
    Stored path (memory calls) (afterCalls path w calls) := by
  induction calls using List.reverseRecOn with
  | nil => exact ⟨good_default, fits_default, .inr ⟨hfile, rfl⟩⟩
  | append_singleton before call ih =>
    -- The last call finds what is stored after those before it.
    obtain ⟨ending, w', hcall, -, hstored⟩ := answered hpath ih call
    rw [memory_append, afterCalls_append, hcall]
    exact hstored

/-- `config` keeps the settings as if they were in memory. If there is no file at first, there are
settings for every sequence of calls, the default ones for none at all, with which every further
call has to do what is demanded of it. -/
theorem config_keeps {path : String} (hpath : IsFilePath path) {w : World}
    (hfile : w.read path = .error .notFound) :
    memory [] = default ∧ ∀ (before : List (List String)) (call : List String),
      Answered path call (memory before) (memory (before ++ [call]))
        (afterCalls path w before) (afterCalls path w (before ++ [call]))
        (callConfig path call (afterCalls path w before)).1 := by
  refine ⟨rfl, fun before call => ?_⟩
  obtain ⟨ending, w', hcall, hanswered, -⟩ := answered hpath (stored_memory hpath hfile before) call
  rw [memory_append, afterCalls_append, hcall]
  exact hanswered

/-- In an empty world: a time for a request is kept, then one of zero is refused and one of `2 ^ 63`
cannot be saved, and a reset brings the default one back. -/
theorem config_keeps_conf :
    let calls := [["lookup.timeout_ms", "9"], ["lookup.timeout_ms", "0"],
      ["lookup.timeout_ms", "9223372036854775808"]]
    ((memory calls).timeoutMs = 9 ∧ (memory (calls ++ [["--reset"]])).timeoutMs = 5000) ∧
    ({} : World).read "/conf/picker.toml" = .error .notFound ∧
    memory [] = default ∧ ∀ (before : List (List String)) (call : List String),
      Answered "/conf/picker.toml" call (memory before) (memory (before ++ [call]))
        (afterCalls "/conf/picker.toml" {} before)
        (afterCalls "/conf/picker.toml" {} (before ++ [call]))
        (callConfig "/conf/picker.toml" call (afterCalls "/conf/picker.toml" {} before)).1 := by
  have hfile : ({} : World).read "/conf/picker.toml" = .error .notFound := by
    rw [World.read, World.locate, if_neg (by simp), if_neg (by decide), if_neg (by decide),
      if_pos (by simp)]
    rfl
  exact ⟨⟨rfl, rfl⟩, hfile, config_keeps isFilePath_conf hfile⟩

end Waymark.Program
