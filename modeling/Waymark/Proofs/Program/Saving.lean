import Waymark.Proofs.Program.Files
import Waymark.Proofs.Settings.Changed
import Waymark.Proofs.Settings.Stored

/-!
# Saving and loading

Good settings whose time for a request fits are saved, and loading the file gives them back; a file
that has some of their entries gives these and the default for the others
(`loadFrom_saveTo`). A time that does not fit is all that stands in the way of saving, and settings
with such a time are accepted (`saveTo_accepted`).
-/

namespace Waymark.Program

open Settings

section Host

variable {settingsPath path : String} {s : Settings} {w : World}

/-- Settings that fit are saved in a directory that is made for them. -/
theorem run_saveTo_of_fits (h : s.Fits) :
    ((World.host settingsPath).saveTo path s).run.run w =
      (.ok (), (w.makeFolder path).write path s.written) := by
  unfold Host.saveTo
  rw [text?_of_fits h]
  rfl

/-- Settings that do not fit are not saved. The directory is made, and no file is written. -/
theorem run_saveTo_of_not_fits (h : ¬ s.Fits) :
    ((World.host settingsPath).saveTo path s).run.run w =
      (.error (.settings .unwritable), w.makeFolder path) := by
  unfold Host.saveTo
  rw [text?_of_not_fits h]
  rfl

/-- What follows on looking whether there is anything at a path. -/
theorem run_bind_isThere {α : Type} (f : Bool → ExceptT Error (StateM World) α) (w : World) :
    (liftM ((World.host settingsPath).isThere path) >>= f).run.run w =
      (f (w.isThere path)).run.run w := rfl

/-- What follows on reading a file. -/
theorem run_bind_readFile {α : Type} (f : Except FileFault ByteArray → ExceptT Error (StateM World) α)
    (w : World) :
    (liftM ((World.host settingsPath).readFile path) >>= f).run.run w =
      (f (w.read path)).run.run w := rfl

/-- Loading a file gives what its bytes say and changes nothing. -/
theorem run_loadFrom :
    ((World.host settingsPath).loadFrom path).run.run w = (Host.settingsOf (w.read path), w) := by
  unfold Host.loadFrom
  rw [run_bind_readFile]
  cases Host.settingsOf (w.read path) <;> rfl

/-- What is saved is loaded. -/
theorem run_loadFrom_saved (hpath : IsFilePath path) (hgood : s.Good) (hfits : s.Fits) :
    ((World.host settingsPath).loadFrom path).run.run
        (w.write path s.written) =
      (.ok s, w.write path s.written) := by
  rw [run_loadFrom, World.read_write hpath, Host.settingsOf, ofBytes_written hgood hfits]

/-- What a part of the entries is loaded as. -/
theorem run_loadFrom_partial (hpath : IsFilePath path) (hgood : s.Good) (hfits : s.Fits)
    (keep : Key → Bool) (drop : Section → Bool) :
    (((World.host settingsPath).loadFrom path).run.run
        (w.write path (s.partialDocument keep drop).text)).1 = .ok (mix keep s default) := by
  rw [run_loadFrom, World.read_write hpath, Host.settingsOf, ofBytes, fromUTF8?_toUTF8]
  simp only [read_partial hgood hfits keep drop]

end Host

/-- Good settings whose time for a request is below `2 ^ 63` are saved to every path of a file and
loaded from there unchanged. A file that has the entries of some keys only, with or without the
sections that are left empty, is loaded as their values and the default ones for all other keys. -/
theorem loadFrom_saveTo (s : Settings) (hcheck : s.check = .ok ())
    (htime : s.timeoutMs.toNat ≤ 2 ^ 63 - 1) (settingsPath path : String)
    (hpath : IsFilePath path) (w : World) :
    (∃ w', ((World.host settingsPath).saveTo path s).run.run w = (.ok (), w') ∧
      w'.read path = .ok s.written.toUTF8 ∧
      (((World.host settingsPath).loadFrom path).run.run w').1 = .ok s) ∧
    ∀ (keep : Key → Bool) (drop : Section → Bool),
      (((World.host settingsPath).loadFrom path).run.run
        (w.write path (s.partialDocument keep drop).text)).1 = .ok (mix keep s default) := by
  have hgood := check_eq_ok_iff.1 hcheck
  have hfits : s.Fits := by
    unfold Fits
    omega
  refine ⟨⟨_, run_saveTo_of_fits hfits, World.read_write hpath _ _, ?_⟩,
    fun keep drop => run_loadFrom_partial hpath hgood hfits keep drop⟩
  rw [run_loadFrom_saved hpath hgood hfits]

/-- Settings with marks of every kind, a line break and a control in the address, and an empty
path. -/
def marked : Settings :=
  { default with baseUrl := "'''\"\"\"\\\n\x01é'", closestPath := "", timeoutMs := 1 }

/-- The path of a file in a directory. -/
theorem isFilePath_conf : IsFilePath "/conf/picker.toml" where
  rooted := by simp
  noNul := by simp
  short := by decide
  steps := by decide
  named := by decide

/-- Settings with such an address are saved and loaded. -/
theorem loadFrom_saveTo_marked :
    (∃ w', ((World.host "/conf/picker.toml").saveTo "/conf/picker.toml" marked).run.run {} =
      (.ok (), w') ∧
      w'.read "/conf/picker.toml" = .ok marked.written.toUTF8 ∧
      (((World.host "/conf/picker.toml").loadFrom "/conf/picker.toml").run.run w').1 =
        .ok marked) ∧
    ∀ (keep : Key → Bool) (drop : Section → Bool),
      (((World.host "/conf/picker.toml").loadFrom "/conf/picker.toml").run.run
        (({} : World).write "/conf/picker.toml" (marked.partialDocument keep drop).text)).1 =
          .ok (mix keep marked default) :=
  loadFrom_saveTo marked rfl (by decide) _ _ isFilePath_conf {}

/-- The settings that any changes make of accepted ones are accepted. They are saved, in a directory
that is made for them, if their time for a request is below `2 ^ 63`. With any longer time, which is
accepted too, they are not: no file is written then, and nothing changes at all if the directory is
there. -/
theorem saveTo_accepted (s : Settings) (hcheck : s.check = .ok ()) (settingsPath path : String)
    (w : World) :
    (∀ changes, (s.setAll changes).check = .ok () ∧
      ((World.host settingsPath).saveTo path (s.setAll changes)).run.run w =
        if (s.setAll changes).timeoutMs.toNat < 2 ^ 63 then
          (.ok (), (w.makeFolder path).write path (s.setAll changes).written)
        else (.error (.settings .unwritable), w.makeFolder path)) ∧
    (∀ n, 2 ^ 63 ≤ n → n < 2 ^ 64 → ∃ long,
      s.set "lookup.timeout_ms" (Decimal.natText n) = .ok long ∧ long.timeoutMs.toNat = n ∧
      ((World.host settingsPath).saveTo path long).run.run w =
        (.error (.settings .unwritable), w.makeFolder path)) ∧
    (w.makeFolder path).files = w.files ∧
    (w.isFolder (placeOf path).dropLast = true → w.makeFolder path = w) := by
  have hgood := check_eq_ok_iff.1 hcheck
  refine ⟨fun changes => ⟨check_eq_ok_iff.2 (good_setAll hgood changes), ?_⟩,
    fun n hlong hlt => ⟨_, set_time hgood (by omega) hlt, ?_, ?_⟩, rfl,
    World.makeFolder_of_isFolder⟩
  · -- Whether settings fit is all that decides.
    split
    case isTrue hfits => exact run_saveTo_of_fits hfits
    case isFalse hfits => exact run_saveTo_of_not_fits hfits
  · rw [UInt64.toNat_ofNat', Nat.mod_eq_of_lt hlt]
  · refine run_saveTo_of_not_fits ?_
    unfold Fits
    rw [UInt64.toNat_ofNat', Nat.mod_eq_of_lt hlt]
    omega

/-- The default settings are accepted, and no time for a request that does not fit is saved in
them. -/
theorem saveTo_accepted_default :
    default.check = .ok () ∧
    (∀ changes, (default.setAll changes).check = .ok () ∧
      ((World.host "/conf/picker.toml").saveTo "/conf/picker.toml"
        (default.setAll changes)).run.run {} =
        if (default.setAll changes).timeoutMs.toNat < 2 ^ 63 then
          (.ok (), (({} : World).makeFolder "/conf/picker.toml").write "/conf/picker.toml"
            (default.setAll changes).written)
        else (.error (.settings .unwritable), ({} : World).makeFolder "/conf/picker.toml")) ∧
    (∀ n, 2 ^ 63 ≤ n → n < 2 ^ 64 → ∃ long,
      default.set "lookup.timeout_ms" (Decimal.natText n) = .ok long ∧ long.timeoutMs.toNat = n ∧
      ((World.host "/conf/picker.toml").saveTo "/conf/picker.toml" long).run.run {} =
        (.error (.settings .unwritable), ({} : World).makeFolder "/conf/picker.toml")) ∧
    (({} : World).makeFolder "/conf/picker.toml").files = [] := by
  obtain ⟨hchanges, hlong, hfiles, -⟩ := saveTo_accepted default rfl "/conf/picker.toml"
    "/conf/picker.toml" {}
  exact ⟨rfl, hchanges, hlong, hfiles⟩

/-- The default settings with a time of `2 ^ 63` milliseconds are accepted, and cannot be saved. -/
theorem long_time_unwritable :
    ∃ long, default.set "lookup.timeout_ms" "9223372036854775808" = .ok long ∧
      long.check = .ok () ∧
      ∀ w, ((World.host "/conf/picker.toml").saveTo "/conf/picker.toml" long).run.run w =
        (.error (.settings .unwritable), w.makeFolder "/conf/picker.toml") := by
  refine ⟨{ default with timeoutMs := 9223372036854775808 }, rfl, rfl, fun w => ?_⟩
  exact run_saveTo_of_not_fits (by decide)

end Waymark.Program
