import DomainModel.Proofs.InstantTexts
import DomainModel.Run

/-! The directories of runs. Their names begin with the second in which the run was started, so they sort as the runs
began, and a name and the record that its directory holds speak of one instant: the record gives the instant back, and
the name is the record up to its seconds. -/

namespace DomainModel.Run

open Time.Instant (HasPlainYear Before hyphenated upToSeconds)

theorem toList_directoryName (run : Run) :
    run.directoryName.toList = run.startedAt.dateTimeChars '-' ++ ("Z__run_".toList ++ run.id.toList) := by
  rw [directoryName, Time.Instant.toFileText, String.toList_append, String.toList_append, String.toList_ofList]
  simp

theorem directoryName_lt {run other : Run} (hrun : HasPlainYear run.startedAt.date)
    (hother : HasPlainYear other.startedAt.date) (h : run.startedAt.seconds < other.startedAt.seconds) :
    run.directoryName < other.directoryName := by
  rw [String.lt_iff_toList_lt, toList_directoryName, toList_directoryName]
  exact Time.Instant.dateTimeChars_append_lt hrun hother h '-' _ _

/-- What a run records of its start. -/
theorem get?_config_started (run : Run) : run.config.get? "started_at" = some (.text run.startedAt.toText) := by
  rfl

/-- **Directories of runs sort by time and agree with what they hold.** -/
theorem directories_by_start :
    (∀ run other : Run, HasPlainYear run.startedAt.date → HasPlainYear other.startedAt.date →
      run.startedAt.seconds ≠ other.startedAt.seconds →
      (run.directoryName < other.directoryName ↔ run.startedAt.Before other.startedAt)) ∧
    (∀ run other : Run, run.startedAt.nanoseconds < 10 ^ 9 → other.startedAt.nanoseconds < 10 ^ 9 →
      run.config.get? "started_at" = other.config.get? "started_at" → run.startedAt = other.startedAt) ∧
    ∀ run : Run, ∃ text, run.config.get? "started_at" = some (.text text) ∧
      run.directoryName = String.ofList (hyphenated (upToSeconds text)) ++ "Z__run_" ++ run.id := by
  refine ⟨fun run other hrun hother hdiffer => ⟨fun hname => ?_, fun hbefore => ?_⟩, ?_, fun run => ?_⟩
  · rcases lt_or_gt_of_ne hdiffer with hbefore | hbehind
    · exact .inl hbefore
    · exact absurd (hname.trans (directoryName_lt hother hrun hbehind)) (lt_irrefl _)
  · exact directoryName_lt hrun hother (hbefore.resolve_right fun hsame => hdiffer hsame.1)
  · intro run other hrun hother hstarted
    rw [get?_config_started, get?_config_started, Option.some.injEq, Json.Value.text.injEq] at hstarted
    exact Time.Instant.toText_inj hrun hother hstarted
  · refine ⟨run.startedAt.toText, get?_config_started run, ?_⟩
    rw [Time.Instant.upToSeconds_toText, Time.Instant.hyphenated_dateTimeChars, ← String.toList_inj,
      toList_directoryName]
    simp

/-- A run in the last second of a leap day. -/
def onLeapDay : Run where
  id := "7f"
  startedAt := ⟨951868799, 500000000⟩
  command := "import-sql"

/-- A run in the second after it. -/
def inMarch : Run where
  id := "0a"
  startedAt := ⟨951868800, 0⟩
  command := "validate"

theorem directories_by_start_march :
    onLeapDay.directoryName = "2000-02-29T23-59-59Z__run_7f" ∧ inMarch.directoryName = "2000-03-01T00-00-00Z__run_0a" ∧
      onLeapDay.directoryName < inMarch.directoryName ∧
      onLeapDay.config.get? "started_at" ≠ inMarch.config.get? "started_at" := by
  obtain ⟨hsorted, hstarted, -⟩ := directories_by_start
  have hyears : HasPlainYear onLeapDay.startedAt.date ∧ HasPlainYear inMarch.startedAt.date := by
    refine ⟨⟨?_, ?_⟩, ?_, ?_⟩ <;> decide
  refine ⟨by decide +kernel, by decide +kernel, ?_, fun hsame => ?_⟩
  · exact (hsorted onLeapDay inMarch hyears.1 hyears.2 (by decide)).2 (.inl (by decide))
  · exact absurd (hstarted onLeapDay inMarch (by decide) (by decide) hsame) (by decide)

end DomainModel.Run
