import PlatformClient.Proofs.Log.Complete
import PlatformClient.Proofs.Redaction.AllMasked
import PlatformClient.Proofs.Redaction.SecretInAddress

/-!
# Tokens in log lines

The text of a log call and the reports of faults are redacted wherever they go: to the logger, to
the standard output, or to the standard error output. The details of a fault, which say where it was
raised, are not. So without a configured secret the lines of a log call show no token, if and only
if there is none in the details of the faults among its arguments.

## Main definitions

* `Emission.line`: the text of a line that leaves the program
* `Log.loggedDetails`, `Log.printedDetails`: the lines with the details of a fault
* `Log.MaskedButDetails`: which lines of a log call show no token

## Main results

* `Log.mem_emissions_cases`: the lines of a log call
* `Log.allMasked_loggedDetails_iff`, `Log.allMasked_printedDetails_iff`: the details that show no
  token
* `Log.masked_but_details`: which lines of a log call show no token
-/

namespace PlatformClient

open Redaction

/-- The text of a line. -/
def Emission.line : Emission → String
  | .logger _ line => line
  | .output line => line
  | .error line => line

namespace Log

variable {settings : Settings} {severity : Severity} {text : String} {raised : List LoggedFault}
  {emission : Emission}

/-! ## The lines of a log call -/

/-- The line for the logger with the details of a fault. -/
def loggedDetails (frames : List String) : Emission :=
  .logger .error ("Details:\n └─ " ++ trimmed (String.join frames))

/-- The printed line with the details of a fault. -/
def printedDetails (frames : List String) : Emission :=
  .error (String.join (frames.map fun frame => "    " ++ trimmed frame))

/-- A line reports one of the faults. -/
def IsReport (settings : Settings) (raised : List LoggedFault) (emission : Emission) : Prop :=
  ∃ fault ∈ raised, emission = loggedReport settings fault ∨ emission = printedReport settings fault

/-- A line gives the details of one of the faults: for the logger, if it is in use, or printed. -/
def IsDetails (settings : Settings) (raised : List LoggedFault) (emission : Emission) : Prop :=
  ∃ fault ∈ raised, ∃ frames ∈ fault.frames,
    settings.logLevel ≠ localLevel ∧ emission = loggedDetails frames ∨
      emission = printedDetails frames

theorem mem_given_faultLines_iff {fault : LoggedFault} :
    emission ∈ (faultLines settings fault).map given ↔
      emission = loggedReport settings fault ∨
        ∃ frames ∈ fault.frames, emission = loggedDetails frames := by
  unfold faultLines
  cases fault.frames <;> simp [given, loggedReport, loggedDetails]

theorem mem_printedFault_iff {fault : LoggedFault} :
    emission ∈ printedFault settings fault ↔
      emission = printedReport settings fault ∨
        ∃ frames ∈ fault.frames, emission = printedDetails frames := by
  unfold printedFault
  cases fault.frames <;> simp [printedReport, printedDetails]

theorem mem_given_planned_cases (hlevel : settings.logLevel ≠ localLevel) {shown : Bool}
    (h : emission ∈ (planned settings severity shown text raised).map given) :
    ShowsText severity text emission ∨ IsReport settings raised emission ∨
      IsDetails settings raised emission := by
  rw [planned, List.map_append, List.map_flatMap, List.mem_append, List.mem_flatMap] at h
  rcases h with htext | ⟨fault, hfault, hline⟩
  · cases shown with
    | false => exact absurd htext List.not_mem_nil
    | true =>
      rw [if_pos rfl, List.map_singleton, List.mem_singleton] at htext
      exact .inl (htext ▸ .logged)
  · rcases mem_given_faultLines_iff.mp hline with hreport | ⟨frames, hframes, hdetails⟩
    · exact .inr (.inl ⟨fault, hfault, .inl hreport⟩)
    · exact .inr (.inr ⟨fault, hfault, frames, hframes, .inl ⟨hlevel, hdetails⟩⟩)

theorem mem_printed_cases {shown : Bool}
    (h : emission ∈ printed settings severity shown text raised) :
    ShowsText severity text emission ∨ IsReport settings raised emission ∨
      IsDetails settings raised emission := by
  rw [printed, List.mem_append, List.mem_flatMap] at h
  rcases h with htext | ⟨fault, hfault, hline⟩
  · cases shown with
    | false => exact absurd htext List.not_mem_nil
    | true =>
      rw [if_pos rfl, List.mem_singleton] at htext
      exact .inl (htext ▸ .printed)
  · rcases mem_printedFault_iff.mp hline with hreport | ⟨frames, hframes, hdetails⟩
    · exact .inr (.inl ⟨fault, hfault, .inr hreport⟩)
    · exact .inr (.inr ⟨fault, hfault, frames, hframes, .inr hdetails⟩)

/-- A line of a log call shows the text, reports a fault or gives the details of one. -/
theorem mem_emissions_cases {logger : Logger}
    (h : emission ∈ emissions settings logger severity text raised) :
    ShowsText severity text emission ∨ IsReport settings raised emission ∨
      IsDetails settings raised emission := by
  rcases emissions_cases settings logger severity text raised rfl with
    ⟨⟨hlevel, -⟩, hall⟩ | ⟨lines, hlines, hbegins, hprinted⟩
  · exact mem_given_planned_cases hlevel (hall ▸ h)
  · rw [hprinted, List.mem_append] at h
    rcases h with htaken | hprint
    · rcases hlines with ⟨-, rfl⟩ | ⟨hlevel, -⟩
      · exact absurd htaken List.not_mem_nil
      · exact mem_given_planned_cases hlevel ((hbegins.map given).subset htaken)
    · exact mem_printed_cases hprint

/-- A logger that takes all lines gets the details of all faults. -/
theorem loggedDetails_emitted (hlevel : settings.logLevel ≠ localLevel) {fault : LoggedFault}
    (hfault : fault ∈ raised) {frames : List String} (hframes : frames ∈ fault.frames) :
    loggedDetails frames ∈ emissions settings (fun _ _ => true) severity text raised := by
  have htaken (plan : List (Channel × String)) : taken (fun _ _ => true) plan = plan := by
    have hall : plan.zipIdx.takeWhile (fun _ => true) = plan.zipIdx :=
      List.takeWhile_eq_self_iff.mpr fun _ _ => rfl
    rw [taken, hall, List.zipIdx_map_fst]
  rcases emissions_cases settings (fun _ _ => true) severity text raised rfl with
    ⟨-, hall⟩ | ⟨lines, ⟨hlocal, -⟩ | ⟨-, hrefused⟩, -⟩
  · rw [hall, planned, List.map_append, List.map_flatMap]
    refine List.mem_append_right _ (List.mem_flatMap.mpr ⟨fault, hfault, ?_⟩)
    exact mem_given_faultLines_iff.mpr (.inr ⟨frames, hframes, rfl⟩)
  · exact absurd hlocal hlevel
  · exact absurd (htaken _) hrefused

/-- If the logger takes no line, the details of all faults are printed. -/
theorem printedDetails_emitted {fault : LoggedFault} (hfault : fault ∈ raised)
    {frames : List String} (hframes : frames ∈ fault.frames) :
    printedDetails frames ∈ emissions settings (fun _ _ => false) severity text raised := by
  have htaken (plan : List (Channel × String)) : taken (fun _ _ => false) plan = [] := by
    cases plan <;> rfl
  rcases emissions_cases settings (fun _ _ => false) severity text raised rfl with
    ⟨⟨-, hall⟩, -⟩ | ⟨lines, -, -, hprinted⟩
  · rw [htaken] at hall
    have hplanned : (.error, "Message: " ++ redact settings fault.report) ∈
        planned settings severity (isShown settings.logLevel severity) text raised :=
      List.mem_append_right _ (List.mem_flatMap.mpr ⟨fault, hfault, List.mem_cons_self⟩)
    exact absurd (hall ▸ hplanned) List.not_mem_nil
  · rw [hprinted, printed]
    refine List.mem_append_right _ (List.mem_append_right _ ?_)
    refine List.mem_flatMap.mpr ⟨fault, hfault, ?_⟩
    exact mem_printedFault_iff.mpr (.inr ⟨frames, hframes, rfl⟩)

/-! ## Lines that show no token -/

/-- An announcement with a blank at its end makes no difference. -/
theorem allMasked_announcement {announcement : String} (h : AllMasked announcement.toList)
    (hend : announcement.toList.getLast? = some ' ') (s : String) :
    AllMasked (announcement ++ s).toList ↔ AllMasked s.toList := by
  rw [String.toList_append, allMasked_announced h hend]

theorem allMasked_redact (h : settings.appSecret = "") (message : String) :
    AllMasked (redact settings message).toList := by
  rw [redact_of_no_secret h, String.toList_ofList]
  exact allMasked_maskTokens _

/-- The text of a log call shows no token. -/
theorem allMasked_of_showsText (h : AllMasked text.toList)
    (hshows : ShowsText severity text emission) : AllMasked emission.line.toList := by
  cases hshows with
  | logged => exact h
  | printed =>
    have hletter : AllMasked ("[" ++ severity.letter ++ "] ").toList ∧
        ("[" ++ severity.letter ++ "] ").toList.getLast? = some ' ' := by
      cases severity <;> decide
    exact (allMasked_announcement hletter.1 hletter.2 text).mpr h

/-- The report of a fault shows no token. -/
theorem allMasked_of_isReport (h : settings.appSecret = "")
    (hreport : IsReport settings raised emission) : AllMasked emission.line.toList := by
  obtain ⟨fault, -, rfl | rfl⟩ := hreport
  · exact (allMasked_announcement (by decide) (by decide) _).mpr (allMasked_redact h _)
  · exact (allMasked_announcement (by decide) (by decide) _).mpr (allMasked_redact h _)

theorem allMasked_trimmed (s : String) : AllMasked (trimmed s).toList ↔ AllMasked s.toList := by
  rw [trimmed, String.toList_ofList, allMasked_trim]

/-- For the logger, the details show no token if all frames together do not. -/
theorem allMasked_loggedDetails_iff (frames : List String) :
    AllMasked (loggedDetails frames).line.toList ↔ AllMasked (String.join frames).toList :=
  (allMasked_announcement (by decide) (by decide) _).trans (allMasked_trimmed _)

/-- Printed, the details show no token if each frame does not. -/
theorem allMasked_printedDetails_iff (frames : List String) :
    AllMasked (printedDetails frames).line.toList ↔ ∀ frame ∈ frames, AllMasked frame.toList := by
  simp only [printedDetails, Emission.line, String.toList_join, List.flatMap_map,
    String.toList_append]
  induction frames with
  | nil => exact iff_of_true (allMasked_of_length_lt (by decide)) nofun
  | cons frame frames ih =>
    have hend : ∀ c ∈ (frames.flatMap fun frame =>
        "    ".toList ++ (trimmed frame).toList).head?, isTokenChar c = false := by
      cases frames with
      | nil => nofun
      | cons next frames =>
        rintro c ⟨⟩
        decide
    rw [List.flatMap_cons, allMasked_append_iff hend, ih, List.forall_mem_cons,
      allMasked_announced (by decide) (by decide), allMasked_trimmed]

/-! ## Every log call -/

/-- Which lines of a log call show no token. -/
structure MaskedButDetails (settings : Settings) (arguments : List LogArgument) : Prop where
  /-- Every line does not, unless it gives the details of a fault. -/
  elsewhere : ∀ (logger : Logger) (severity : Severity),
    ∀ emission ∈ (report settings logger severity arguments).emissions,
      AllMasked emission.line.toList ∨
        IsDetails settings (faults arguments) emission
  /-- No line does, whatever the severity is and whatever the logger takes, if and only if no frame
  of a fault does, nor all frames of a fault together, if they can go to the logger. -/
  everywhere :
    (∀ (logger : Logger) (severity : Severity),
      ∀ emission ∈ (report settings logger severity arguments).emissions,
        AllMasked emission.line.toList) ↔
      ∀ fault ∈ faults arguments, ∀ frames ∈ fault.frames,
        (∀ frame ∈ frames, AllMasked frame.toList) ∧
          (settings.logLevel ≠ localLevel → AllMasked (String.join frames).toList)

/-- **Tokens in log lines.** Without a configured secret, log lines show tokens in the details of
faults only. -/
theorem masked_but_details (h : settings.appSecret = "") (arguments : List LogArgument) :
    MaskedButDetails settings arguments := by
  have helsewhere : ∀ (logger : Logger) (severity : Severity),
      ∀ emission ∈ (report settings logger severity arguments).emissions,
        AllMasked emission.line.toList ∨
        IsDetails settings (faults arguments) emission := by
    intro logger severity emission hmem
    rcases mem_emissions_cases hmem with hshows | hreport | hdetails
    · exact .inl (allMasked_of_showsText (allMasked_redact h _) hshows)
    · exact .inl (allMasked_of_isReport h hreport)
    · exact .inr hdetails
  refine ⟨helsewhere, fun hall fault hfault frames hframes => ⟨?_, fun hlevel => ?_⟩,
    fun hframes logger severity emission hemission => ?_⟩
  · have hprinted := hall _ .error _ (printedDetails_emitted hfault hframes)
    exact (allMasked_printedDetails_iff frames).mp hprinted
  · have hlogged := hall _ .error _ (loggedDetails_emitted hlevel hfault hframes)
    exact (allMasked_loggedDetails_iff frames).mp hlogged
  · rcases helsewhere logger severity emission hemission with hmasked | hdetails
    · exact hmasked
    · obtain ⟨fault, hfault, frames, hmem, ⟨hlevel, rfl⟩ | rfl⟩ := hdetails
      · exact (allMasked_loggedDetails_iff frames).mpr ((hframes fault hfault frames hmem).2 hlevel)
      · exact (allMasked_printedDetails_iff frames).mpr (hframes fault hfault frames hmem).1

/-- A message and a fault with the address of a request, and where the fault was raised. -/
theorem masked_but_details_of_address :
    (Settings.ofSecret "").appSecret = "" ∧
      ∀ (logger : Logger) (severity : Severity),
        ∀ emission ∈ (report (Settings.ofSecret "") logger severity
            [.text "GET https://h/p?access_token=abcdefghijkl",
              .fault ⟨"ValueError", "https://h/p?access_token=abcdefghijkl",
                some ["  File \"x.py\", line 1, in f\n    get(url)\n"]⟩]).emissions,
          AllMasked emission.line.toList := by
  have hsecret : (Settings.ofSecret "").appSecret = "" := rfl
  refine ⟨hsecret, (masked_but_details hsecret _).everywhere.mpr ?_⟩
  decide +kernel

/-- A token in a line of the source where a fault was raised is logged as it is. -/
theorem not_allMasked_of_frame :
    (Settings.ofSecret "").appSecret = "" ∧
      ∃ emission ∈ (report (Settings.ofSecret "") (fun _ _ => true) .error
          [.fault ⟨"ValueError", "boom", some ["  File \"x.py\", line 1, in f\n" ++
            "    get(\"https://h/p?access_token=abcdefghijkl\")\n"]⟩]).emissions,
        ¬ AllMasked emission.line.toList := by
  refine ⟨rfl, ?_⟩
  decide +kernel

end Log

end PlatformClient
