import PlatformClient.Log.Report
import Mathlib.Data.List.Flatten

/-!
# Nothing that is logged is lost

The logger takes the lines of a log call up to the first one that it refuses. Then everything is
printed, what it has taken included. So what a log call emits is all that was planned for the
logger, or it ends with all that is printed; and both hold the text, if it is shown, and every fault
with its details. The text is the result of the call whatever the logger does.

## Main definitions

* `Log.given`: a line as the logger takes it
* `Log.ShowsText`: lines that show the text of a call
* `Log.loggedReport`, `Log.printedReport`: the lines that report a fault
* `Log.Complete`: what a log call returns and emits

## Main results

* `Log.emissions_cases`: what a log call emits
* `Log.exists_showsText_iff`: the text is emitted if it is shown, and not otherwise
* `Log.reports_emitted`: all faults are reported in their order
* `Log.report_complete`: nothing that is logged is lost
-/

namespace PlatformClient.Log

variable (settings : Settings) (logger : Logger) (severity : Severity)

/-! ## What is emitted -/

/-- A line for a channel, as the logger takes it. -/
def given (line : Channel × String) : Emission := .logger line.1 line.2

/-- The logger takes lines from the first one on. -/
theorem taken_begins (lines : List (Channel × String)) : taken logger lines <+: lines := by
  have hbegins := (List.takeWhile_prefix (l := lines.zipIdx)
    fun entry : (Channel × String) × Nat => logger entry.2 entry.1.1).map Prod.fst
  rwa [List.zipIdx_map_fst] at hbegins

/-- What a log call emits is all that is planned for the logger, if it takes all of it. Otherwise it
ends with all that is printed, and this is everything under the level `local`. -/
theorem emissions_cases (text : String) (faults : List LoggedFault) {plan : List (Channel × String)}
    (hplan : planned settings severity (isShown settings.logLevel severity) text faults = plan) :
    (settings.logLevel ≠ localLevel ∧ taken logger plan = plan) ∧
        emissions settings logger severity text faults = plan.map given ∨
      ∃ lines, (settings.logLevel = localLevel ∧ lines = [] ∨
          settings.logLevel ≠ localLevel ∧ taken logger plan ≠ plan) ∧ lines <+: plan ∧
        emissions settings logger severity text faults = lines.map given ++
          printed settings severity (isShown settings.logLevel severity) text faults := by
  unfold emissions
  dsimp only
  rw [hplan]
  by_cases hlocal : settings.logLevel = localLevel
  · exact .inr ⟨[], .inl ⟨hlocal, rfl⟩, List.nil_prefix, if_pos (beq_iff_eq.mpr hlocal)⟩
  · rw [if_neg fun h => hlocal (beq_iff_eq.mp h)]
    have hbegins := taken_begins logger plan
    by_cases hrefused : (taken logger plan).length < plan.length
    · have hpart : taken logger plan ≠ plan := fun hall => Nat.lt_irrefl _ (hall ▸ hrefused)
      exact .inr ⟨_, .inr ⟨hlocal, hpart⟩, hbegins, congrArg (_ ++ ·) (if_pos hrefused)⟩
    · have hall := hbegins.eq_of_length_le (Nat.le_of_not_lt hrefused)
      refine .inl ⟨⟨hlocal, hall⟩, ?_⟩
      rw [if_neg hrefused, List.append_nil, hall]
      rfl

/-! ## The text -/

/-- A line that shows the text of a log call: on the channel of its severity, or printed behind the
letter of its severity. -/
inductive ShowsText (severity : Severity) (text : String) : Emission → Prop
  | logged : ShowsText severity text (.logger severity.channel text)
  | printed : ShowsText severity text (.output ("[" ++ severity.letter ++ "] " ++ text))

theorem ShowsText.channel_eq {severity : Severity} {channel : Channel} {text line : String}
    (h : ShowsText severity text (.logger channel line)) : severity.channel = channel := by
  cases h
  rfl

/-- Texts of the severity `error` are shown under every level. -/
theorem isShown_error (level : String) : isShown level .error = true := by
  unfold isShown threshold
  split <;> simp [Severity.rank]

/-- The lines of faults are all for the channel `error`. -/
theorem channel_of_mem_faultLines {settings : Settings} {fault : LoggedFault}
    {line : Channel × String} (h : line ∈ faultLines settings fault) : line.1 = .error := by
  unfold faultLines at h
  cases hframes : fault.frames with
  | none => simp_all
  | some frames =>
    rw [hframes, List.mem_cons, List.mem_singleton] at h
    rcases h with rfl | rfl <;> rfl

/-- A printed fault does not show the text of the call. -/
theorem not_showsText_of_mem_printedFault {settings : Settings} {severity : Severity}
    {text : String} {fault : LoggedFault} {line : Emission}
    (h : line ∈ printedFault settings fault) : ¬ ShowsText severity text line := by
  unfold printedFault at h
  cases hframes : fault.frames with
  | none =>
    rw [hframes, List.mem_singleton] at h
    subst h
    nofun
  | some frames =>
    rw [hframes, List.mem_cons, List.mem_singleton] at h
    rcases h with rfl | rfl <;> nofun

theorem exists_showsText_printed_iff (shown : Bool) (text : String) (faults : List LoggedFault) :
    (∃ line ∈ printed settings severity shown text faults, ShowsText severity text line) ↔
      shown = true := by
  unfold printed
  constructor
  · rintro ⟨line, hmem, hshows⟩
    rcases List.mem_append.mp hmem with hmem | hmem
    · cases shown with
      | true => rfl
      | false => exact absurd hmem List.not_mem_nil
    · obtain ⟨fault, -, hline⟩ := List.mem_flatMap.mp hmem
      exact absurd hshows (not_showsText_of_mem_printedFault hline)
  · rintro rfl
    exact ⟨_, List.mem_append_left _ List.mem_cons_self, .printed⟩

/-- What is for the logger shows the text exactly if it is shown: a text that is filtered is for
another channel than the faults. -/
theorem showsText_of_mem_planned {settings : Settings} {severity : Severity} {level text : String}
    {faults : List LoggedFault} {line : Channel × String}
    (hmem : line ∈ planned settings severity (isShown level severity) text faults)
    (hshows : ShowsText severity text (given line)) : isShown level severity = true := by
  unfold planned at hmem
  rcases List.mem_append.mp hmem with hmem | hmem
  · cases hshown : isShown level severity with
    | true => rfl
    | false =>
      rw [hshown] at hmem
      exact absurd hmem List.not_mem_nil
  · obtain ⟨fault, -, hline⟩ := List.mem_flatMap.mp hmem
    have hchannel : severity.channel = .error :=
      (hshows.channel_eq : severity.channel = line.1).trans (channel_of_mem_faultLines hline)
    cases severity with
    | error => exact isShown_error level
    | _ => cases hchannel

/-- The text is emitted if it is shown, and not otherwise. -/
theorem exists_showsText_iff (text : String) (faults : List LoggedFault) :
    (∃ line ∈ emissions settings logger severity text faults, ShowsText severity text line) ↔
      isShown settings.logLevel severity = true := by
  rcases emissions_cases settings logger severity text faults rfl with
    ⟨-, hall⟩ | ⟨lines, -, hbegins, hprinted⟩
  · rw [hall]
    constructor
    · rintro ⟨line, hmem, hshows⟩
      obtain ⟨planned, hplanned, rfl⟩ := List.mem_map.mp hmem
      exact showsText_of_mem_planned hplanned hshows
    · intro hshown
      refine ⟨given (severity.channel, text), List.mem_map_of_mem ?_, .logged⟩
      rw [planned, if_pos hshown]
      exact List.mem_append_left _ List.mem_cons_self
  · rw [hprinted]
    constructor
    · rintro ⟨line, hmem, hshows⟩
      rcases List.mem_append.mp hmem with hmem | hmem
      · obtain ⟨planned, hplanned, rfl⟩ := List.mem_map.mp hmem
        exact showsText_of_mem_planned (hbegins.subset hplanned) hshows
      · exact (exists_showsText_printed_iff settings severity _ text faults).mp ⟨line, hmem, hshows⟩
    · intro hshown
      obtain ⟨line, hmem, hshows⟩ :=
        (exists_showsText_printed_iff settings severity _ text faults).mpr hshown
      exact ⟨line, List.mem_append_right _ hmem, hshows⟩

/-! ## The faults -/

/-- The line for the logger that reports a fault. -/
def loggedReport (fault : LoggedFault) : Emission :=
  .logger .error ("Message: " ++ Redaction.redact settings fault.report)

/-- The printed line that reports a fault. -/
def printedReport (fault : LoggedFault) : Emission :=
  .error (" ‼  Message: " ++ Redaction.redact settings fault.report)

/-- What is emitted ends with all lines of all faults: each is reported, and its details follow. -/
theorem faults_emitted (text : String) (faults : List LoggedFault) :
    faults.flatMap (fun fault => (faultLines settings fault).map given) <:+
        emissions settings logger severity text faults ∨
      faults.flatMap (printedFault settings) <:+
        emissions settings logger severity text faults := by
  rcases emissions_cases settings logger severity text faults rfl with
    ⟨-, hall⟩ | ⟨lines, -, -, hprinted⟩
  · left
    rw [hall, planned, List.map_append, List.map_flatMap]
    exact List.suffix_append _ _
  · right
    rw [hprinted, printed, ← List.append_assoc]
    exact List.suffix_append _ _

/-- All faults are reported, in their order. -/
theorem reports_emitted (text : String) (faults : List LoggedFault) :
    (faults.map (loggedReport settings)).Sublist (emissions settings logger severity text faults) ∨
      (faults.map (printedReport settings)).Sublist
        (emissions settings logger severity text faults) := by
  rcases faults_emitted settings logger severity text faults with hlogged | hprinted
  · left
    rw [List.map_eq_flatMap]
    refine (List.Sublist.flatMap_right faults fun fault _ => ?_).trans hlogged.sublist
    exact List.singleton_sublist.mpr List.mem_cons_self
  · right
    rw [List.map_eq_flatMap]
    refine (List.Sublist.flatMap_right faults fun fault _ => ?_).trans hprinted.sublist
    exact List.singleton_sublist.mpr List.mem_cons_self

/-! ## Every call -/

/-- What a log call returns and emits. -/
structure Complete (arguments : List LogArgument) : Prop where
  /-- The redacted text of the arguments is the result under every level, for every severity, and
  whatever the logger does. -/
  returned : ∀ (level : String) (other : Logger) (grade : Severity),
    (report { settings with logLevel := level } other grade arguments).text =
      Redaction.redact settings (tree (faults arguments).isEmpty (arguments.map part))
  /-- It is emitted exactly if the level shows texts of the severity. -/
  shown : (∃ line ∈ (report settings logger severity arguments).emissions,
      ShowsText severity (report settings logger severity arguments).text line) ↔
    isShown settings.logLevel severity = true
  /-- Every fault is reported with its redacted text, in the order of the arguments. -/
  reported :
    ((faults arguments).map (loggedReport settings)).Sublist
        (report settings logger severity arguments).emissions ∨
      ((faults arguments).map (printedReport settings)).Sublist
        (report settings logger severity arguments).emissions
  /-- Nor are the details of any fault lost. -/
  detailed :
    (faults arguments).flatMap (fun fault => (faultLines settings fault).map given) <:+
        (report settings logger severity arguments).emissions ∨
      (faults arguments).flatMap (printedFault settings) <:+
        (report settings logger severity arguments).emissions
  /-- If the text is not shown and there is no fault, nothing is emitted. -/
  silent : isShown settings.logLevel severity = false → faults arguments = [] →
    (report settings logger severity arguments).emissions = []

/-- **Nothing that is logged is lost.** This holds of every log call, under every configuration, and
at whatever line the logger refuses. -/
theorem report_complete (arguments : List LogArgument) :
    Complete settings logger severity arguments where
  returned _ _ _ := rfl
  shown := exists_showsText_iff settings logger severity _ _
  reported := reports_emitted settings logger severity _ _
  detailed := faults_emitted settings logger severity _ _
  silent hhidden hnone := by
    have hsilent := emissions_of_hidden hhidden logger (compose settings arguments)
    unfold report
    rw [hnone]
    exact hsilent

/-- A logger that takes the text and refuses the fault: everything is printed then. -/
example :
    (report
      { logLevel := "info", timeout := 10, apiBase := "", fileBase := "", appId := "",
        tokenMargin := 60, poolSize := 16, chunkSize := 32768, version := "dev", appSecret := "" }
      (fun index _ => index == 0) .info
      [.text "Retrying", .fault ⟨"ValueError", "boom", some ["a\n"]⟩]).emissions =
    [.logger .info "Retrying\n ├─ ! ValueError (see below)",
      .output "[I] Retrying\n ├─ ! ValueError (see below)",
      .error " ‼  Message: boom", .error "    a"] := by
  decide +kernel

end PlatformClient.Log
