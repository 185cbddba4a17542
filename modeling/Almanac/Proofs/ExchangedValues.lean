import Almanac.Proofs.AssignedValues

namespace Almanac

/-- Setting a value over settings that are read from the file leaves settings that differ from them
in no other value. An accepted value is written with all the rest, and for any other the file stays
as it is. -/
structure SetOver (f : Setting) (value : String) (now : Instant) (file : SettingsFile)
    (base : Settings) (left : SettingsFile) (s : Settings) : Prop where
  read : left.settings now = .ok s
  others : ∀ g, g ≠ f → s.value g = base.value g
  taken : f.Accepts now (.string value) → left = some s.fileText ∧ s.value f = f.kept (.string value)
  refused : ¬ f.Accepts now (.string value) → left = file

namespace SetOver

variable {f g : Setting} {v w : String} {now : Instant}
  {file afterF afterG left left' : SettingsFile} {base sF sG s s' : Settings}

/-- All that is left follows from what was read. -/
theorem unique (h : SetOver f v now file base left s) (h' : SetOver f v now file base left' s') :
    left = left' := by
  by_cases accepts : f.Accepts now (.string v)
  · obtain ⟨written, kept⟩ := h.taken accepts
    obtain ⟨written', kept'⟩ := h'.taken accepts
    have same : s = s' := by
      refine Settings.ext_value fun g => ?_
      by_cases target : g = f
      · rw [target, kept, kept']
      · rw [h.others g target, h'.others g target]
    rw [written, written', same]
  · rw [h.refused accepts, h'.refused accepts]

/-- A value that is refused may as well come first. -/
theorem comm_of_refused (read : file.settings now = .ok base) (refuses : ¬ g.Accepts now (.string w))
    (f_first : SetOver f v now file base afterF sF) (g_second : SetOver g w now afterF sF left s)
    (g_first : SetOver g w now file base afterG sG) (f_second : SetOver f v now afterG sG left' s') :
    left = left' := by
  have kept : afterG = file := g_first.refused refuses
  subst kept
  have unchanged : sG = base := Except.ok.inj (g_first.read.symm.trans read)
  subst unchanged
  rw [g_second.refused refuses]
  exact f_first.unique f_second

/-- Values of two settings are set in either order with the same file left. -/
theorem comm (apart : f ≠ g) (read : file.settings now = .ok base)
    (f_first : SetOver f v now file base afterF sF) (g_second : SetOver g w now afterF sF left s)
    (g_first : SetOver g w now file base afterG sG) (f_second : SetOver f v now afterG sG left' s') :
    left = left' := by
  by_cases takes_g : g.Accepts now (.string w)
  · by_cases takes_f : f.Accepts now (.string v)
    · obtain ⟨written, kept_g⟩ := g_second.taken takes_g
      obtain ⟨-, kept_g'⟩ := g_first.taken takes_g
      obtain ⟨-, kept_f⟩ := f_first.taken takes_f
      obtain ⟨written', kept_f'⟩ := f_second.taken takes_f
      have same : s = s' := by
        refine Settings.ext_value fun h => ?_
        by_cases at_f : h = f
        · rw [at_f, g_second.others f apart, kept_f, kept_f']
        · by_cases at_g : h = g
          · rw [at_g, kept_g, f_second.others g apart.symm, kept_g']
          · rw [g_second.others h at_g, f_first.others h at_f, f_second.others h at_f,
              g_first.others h at_g]
      rw [written, written', same]
    · exact (comm_of_refused read takes_f g_first f_second f_first g_second).symm
  · exact comm_of_refused read takes_g f_first g_second g_first f_second

end SetOver

/-- Where a file is read, a command that sets a value ends in one way, whatever the file holds. -/
theorem Command.configSet_over (f : Setting) (value : String) (around : Surroundings) :
    ∃ outcome : Outcome, (outcome.exitCode = 0 ↔ f.Accepts around.now (.string value))
      ∧ ∀ (file : SettingsFile) (base : Settings), file.settings around.now = .ok base →
        ∃ left s, (configSet (String.ofList f.path) value).run file around = (left, outcome)
          ∧ SetOver f value around.now file base left s := by
  have target : (String.ofList f.path).toList = f.path := String.toList_ofList
  by_cases accepts : f.Accepts around.now (.string value)
  · refine ⟨.printed ("Updated " ++ String.ofList f.path), iff_of_true rfl accepts,
      fun file base read => ?_⟩
    obtain ⟨s, ran, after, whole, values⟩ := assignValue_accepted read target accepts
    refine ⟨_, s, ran, after.reloaded whole, fun g other => ?_, fun _ => ⟨rfl, ?_⟩,
      fun refused => absurd accepts refused⟩
    · rw [values, if_neg other]
    · rw [values, if_pos rfl]
  · obtain ⟨outcome, ⟨errors, -, rfl⟩, ran⟩ := assignValue_refused target accepts
    refine ⟨.exited 1 "" errors, iff_of_false Nat.one_ne_zero accepts, fun file base read => ?_⟩
    exact ⟨file, base, ran file base read, read, fun _ _ => rfl,
      fun accepted => absurd accepted accepts, fun _ => rfl⟩

/-- Values of two settings may be set in either order: the file is left the same, and each command
ends as it does in the other order. It ends well just where the file is read and its own value is
accepted, and what is read afterwards is that value. -/
theorem Command.configSet_comm {f g : Setting} (apart : f ≠ g) (v w : String) (file : SettingsFile)
    (around : Surroundings) :
    ∃ afterF afterG left first second,
      (configSet (String.ofList f.path) v).run file around = (afterF, first)
      ∧ (configSet (String.ofList g.path) w).run afterF around = (left, second)
      ∧ (configSet (String.ofList g.path) w).run file around = (afterG, second)
      ∧ (configSet (String.ofList f.path) v).run afterG around = (left, first)
      ∧ (first.exitCode = 0 ↔ (∃ base, file.settings around.now = .ok base)
        ∧ f.Accepts around.now (.string v))
      ∧ (second.exitCode = 0 ↔ (∃ base, file.settings around.now = .ok base)
        ∧ g.Accepts around.now (.string w))
      ∧ (first.exitCode ≠ 0 → second.exitCode ≠ 0 → left = file)
      ∧ ∀ base, file.settings around.now = .ok base → ∃ s, left.settings around.now = .ok s
        ∧ (first.exitCode = 0 → s.value f = f.kept (.string v))
        ∧ (second.exitCode = 0 → s.value g = g.kept (.string w)) := by
  cases read : file.settings around.now with
  | error fault =>
    have ran (h : Setting) (value : String) : (configSet (String.ofList h.path) value).run file around
        = (file, .ofStoreFault around.path (.unreadable fault)) := assignValue_unread read
    refine ⟨file, file, file, _, _, ran f v, ran g w, ran g w, ran f v, ?_, ?_, fun _ _ => rfl, nofun⟩
    · simp
    · simp
  | ok base =>
    obtain ⟨first, ends_f, over_f⟩ := configSet_over f v around
    obtain ⟨second, ends_g, over_g⟩ := configSet_over g w around
    obtain ⟨afterF, sF, ran_f, f_first⟩ := over_f file base read
    obtain ⟨afterG, sG, ran_g, g_first⟩ := over_g file base read
    obtain ⟨left, s, ran_g', g_second⟩ := over_g afterF sF f_first.read
    obtain ⟨left', s', ran_f', f_second⟩ := over_f afterG sG g_first.read
    have same : left = left' := SetOver.comm apart read f_first g_second g_first f_second
    subst same
    refine ⟨afterF, afterG, left, first, second, ran_f, ran_g', ran_g, ran_f', ?_, ?_, ?_, ?_⟩
    · rw [ends_f]
      simp
    · rw [ends_g]
      simp
    · intro refuses_f refuses_g
      rw [g_second.refused (mt ends_g.mpr refuses_g), f_first.refused (mt ends_f.mpr refuses_f)]
    · rintro _ -
      refine ⟨s, g_second.read, fun takes_f => ?_, fun takes_g => ?_⟩
      · rw [g_second.others f apart]
        exact (f_first.taken (ends_f.mp takes_f)).2
      · exact (g_second.taken (ends_g.mp takes_g)).2

/-- A missing file is made with both values in it. -/
theorem Command.configSet_comm_missing :
    Setting.zone ≠ Setting.locale
      ∧ ∃ around : Surroundings, around = ⟨"settings.json", fun _ => none, ⟨0⟩⟩
        ∧ ∃ afterZone afterLocale left first second s,
          (configSet "datemath.default_zone" "EST").run none around = (afterZone, first)
            ∧ (configSet "datemath.locale" "de").run afterZone around = (left, second)
            ∧ (configSet "datemath.locale" "de").run none around = (afterLocale, second)
            ∧ (configSet "datemath.default_zone" "EST").run afterLocale around = (left, first)
            ∧ first.exitCode = 0 ∧ second.exitCode = 0
            ∧ left.settings around.now = .ok s ∧ s.zone = "EST" ∧ s.locale = "de" := by
  have apart : Setting.zone ≠ Setting.locale := by decide
  have zone_key : String.ofList Setting.zone.path = "datemath.default_zone" := by decide
  have locale_key : String.ofList Setting.locale.path = "datemath.locale" := by decide
  obtain ⟨around, given⟩ : ∃ around : Surroundings,
      around = ⟨"settings.json", fun _ => none, ⟨0⟩⟩ := ⟨_, rfl⟩
  obtain ⟨afterZone, afterLocale, left, first, second, zone_run, locale_after, locale_run, zone_after,
    first_iff, second_iff, -, held⟩ := configSet_comm apart "EST" "de" none around
  rw [zone_key] at zone_run zone_after
  rw [locale_key] at locale_run locale_after
  have first_ends : first.exitCode = 0 := first_iff.mpr ⟨⟨_, rfl⟩, _, rfl⟩
  have second_ends : second.exitCode = 0 := second_iff.mpr ⟨⟨_, rfl⟩, _, rfl⟩
  obtain ⟨s, read, zone, locale⟩ := held .default rfl
  exact ⟨apart, around, given, afterZone, afterLocale, left, first, second, s, zone_run, locale_after,
    locale_run, zone_after, first_ends, second_ends, read, Json.string.inj (zone first_ends),
    Json.string.inj (locale second_ends)⟩

end Almanac
