import Mathlib.Data.List.Count
import SearchGateway.Gateway.Metrics
import SearchGateway.Proofs.Lists
import SearchGateway.Proofs.Routing.Table
import SearchGateway.Proofs.Security.Requirements

/-!
# What the exposition shows

Different events go to different counters (`Event.counter_injective`), so that the line of a counter
shows how often one event has happened (`line_mem_sampleLines_iff`).
-/

namespace SearchGateway.Gateway

open Routing (Action Dialect)
open Security (Operation Requirements)

/-! ## Samples -/

section

variable {name name' : String} {labels labels' : List (String × String)}

/-- A label as it is shown. -/
def shownLabel (label : String × String) : String :=
  s!"{label.1}=\"{label.2}\""

/-- The labels of a sample as they are shown. -/
def shownLabels (labels : List (String × String)) : String :=
  ",".intercalate (labels.map shownLabel)

theorem toList_sample : (sample name labels).toList =
    name.toList ++ '\x7b' :: ((shownLabels labels).toList ++ ['\x7d']) := by
  have htext : sample name labels = name ++ "\x7b" ++ shownLabels labels ++ "\x7d" := rfl
  simp [htext, String.toList_append]

theorem sample_eq_iff (hname : '\x7b' ∉ name.toList) (hname' : '\x7b' ∉ name'.toList) :
    sample name labels = sample name' labels' ↔
      name = name' ∧ shownLabels labels = shownLabels labels' := by
  rw [← String.toList_inj, toList_sample, toList_sample, append_cons_inj hname hname',
    List.append_cancel_right_eq, String.toList_inj, String.toList_inj]

theorem toList_shownLabel {label : String × String} : (shownLabel label).toList =
    label.1.toList ++ '=' :: '"' :: (label.2.toList ++ ['"']) := by
  have htext : shownLabel label = label.1 ++ "=\"" ++ label.2 ++ "\"" := rfl
  simp [htext, String.toList_append]

theorem shownLabels_cons_cons {label next : String × String} :
    shownLabels (label :: next :: labels) =
      shownLabel label ++ "," ++ shownLabels (next :: labels) := by
  simp [shownLabels]

/-- Labels with the same names are shown alike only if they are the same, provided that no value but
the last one has a quotation mark. -/
theorem shownLabels_injective (hnames : labels.map (·.1) = labels'.map (·.1))
    (hplain : ∀ label ∈ labels.dropLast, '"' ∉ label.2.toList)
    (hplain' : ∀ label ∈ labels'.dropLast, '"' ∉ label.2.toList)
    (h : shownLabels labels = shownLabels labels') : labels = labels' := by
  induction labels generalizing labels' with
  | nil => exact (List.map_eq_nil_iff.1 hnames.symm).symm
  | cons label labels ih =>
      obtain ⟨label', labels', rfl⟩ : ∃ label' others, labels' = label' :: others :=
        List.exists_cons_of_ne_nil fun hnil => by simp [hnil] at hnames
      obtain ⟨hname, hnames⟩ : label.1 = label'.1 ∧ labels.map (·.1) = labels'.map (·.1) := by
        simpa using hnames
      cases labels with
      | nil =>
          obtain rfl : labels' = [] := List.map_eq_nil_iff.1 hnames.symm
          have hvalue : label.2 = label'.2 := by
            simpa [shownLabels, ← String.toList_inj, toList_shownLabel, hname] using h
          rw [Prod.ext hname hvalue]
      | cons next labels =>
          obtain ⟨next', labels', rfl⟩ : ∃ next' others, labels' = next' :: others :=
            List.exists_cons_of_ne_nil fun hnil => by simp [hnil] at hnames
          rw [List.dropLast_cons_cons, List.forall_mem_cons] at hplain hplain'
          rw [shownLabels_cons_cons, shownLabels_cons_cons] at h
          have htext := congrArg String.toList h
          simp only [String.toList_append, toList_shownLabel, hname, List.append_assoc,
            List.cons_append, List.nil_append, List.append_cancel_left_eq, List.cons.injEq,
            true_and] at htext
          -- the quotation mark after a value is the first one that is met
          obtain ⟨hvalue, hrest⟩ := (append_cons_inj hplain.1 hplain'.1).1 htext
          rw [List.append_cancel_left_eq, String.toList_inj] at hrest
          rw [Prod.ext hname (String.toList_inj.1 hvalue), ih hnames hplain.2 hplain'.2 hrest]

end

/-! ## Labels -/

theorem DenialKind.label_injective {kind kind' : DenialKind} (h : kind.label = kind'.label) :
    kind = kind' := by
  cases kind <;> cases kind' <;> simp_all [label]

theorem Resolution.label_injective {resolution resolution' : Resolution}
    (h : resolution.label = resolution'.label) : resolution = resolution' := by
  cases resolution <;> cases resolution' <;> simp_all [label]

theorem policy_token_injective {policy policy' : Registry.Policy}
    (h : policy.token = policy'.token) : policy = policy' := by
  cases policy <;> cases policy' <;> simp_all [Registry.Policy.token]

theorem toString_nat_injective {n m : Nat} (h : toString n = toString m) : n = m := by
  have hdigits := congrArg (fun text => Nat.ofDigitChars 10 text.toList 0) h
  simpa [Nat.toString_eq_ofList_toDigits] using hdigits

namespace Event

variable {e e' : Event}

/-! ## Counters -/

/-- The metric that an event belongs to. -/
def metric : Event → String
  | .dispatched _ _ _ => "sift_dispatch_total"
  | .denied _ _ => "sift_auth_denied_total"
  | .target _ _ => "sift_alias_resolution_total"
  | .refused _ => "sift_compat_rejected_total"
  | .unmatched _ => "sift_unmatched_total"

/-- What sets an event apart from others of its metric. -/
def labels : Event → List (String × String)
  | .dispatched action dialect status =>
    [("action", action.token), ("dialect", dialect.token), ("status", toString status)]
  | .denied operation kind => [("operation", operation.token), ("reason", kind.label)]
  | .target policy resolution => [("policy", policy.token), ("outcome", resolution.label)]
  | .refused type => [("error_type", type)]
  | .unmatched method => [("method", method)]

theorem counter_eq (e : Event) : e.counter = sample e.metric e.labels := by
  cases e <;> rfl

theorem brace_not_mem_metric (e : Event) : '\x7b' ∉ e.metric.toList := by
  cases e <;> simp only [metric] <;> decide

theorem quote_not_mem_labels (e : Event) : ∀ label ∈ e.labels.dropLast, '"' ∉ label.2.toList := by
  cases e with
  | dispatched action dialect status =>
      have haction : '"' ∉ action.token.toList := by
        have hall : ∀ action ∈ Action.all, '"' ∉ action.token.toList := by decide +kernel
        exact hall action action.mem_all
      have hdialect : '"' ∉ dialect.token.toList := by cases dialect <;> decide
      simp [labels, haction, hdialect]
  | denied operation kind =>
      have hoperation : '"' ∉ operation.token.toList := by
        have hall : ∀ operation ∈ Operation.all, '"' ∉ operation.token.toList := by decide +kernel
        exact hall operation operation.mem_all
      simp [labels, hoperation]
  | target policy resolution =>
      have hpolicy : '"' ∉ policy.token.toList := by cases policy <;> decide
      simp [labels, hpolicy]
  | refused | unmatched => simp [labels]

theorem names_labels_eq (h : e.metric = e'.metric) :
    e.labels.map (·.1) = e'.labels.map (·.1) := by
  cases e <;> cases e' <;> simp_all [metric, labels]

theorem labels_injective (h : e.labels = e'.labels) : e = e' := by
  cases e <;> cases e' <;> simp only [labels, List.cons.injEq, Prod.mk.injEq, String.reduceEq,
    false_and, true_and, and_true] at h
  case dispatched.dispatched =>
    rw [Action.token_injective h.1, Dialect.token_injective h.2.1, toString_nat_injective h.2.2]
  case denied.denied =>
    rw [Requirements.token_injective h.1, DenialKind.label_injective h.2]
  case target.target =>
    rw [policy_token_injective h.1, Resolution.label_injective h.2]
  case refused.refused => rw [h]
  case unmatched.unmatched => rw [h]

/-- Different events go to different counters. -/
theorem counter_injective : Function.Injective counter := by
  intro e e' h
  rw [counter_eq, counter_eq, sample_eq_iff e.brace_not_mem_metric e'.brace_not_mem_metric] at h
  exact labels_injective (shownLabels_injective (names_labels_eq h.1) e.quote_not_mem_labels
    e'.quote_not_mem_labels h.2)

theorem counter_ne_of_timer? {text : String} (h : e'.timer? = some text) : e.counter ≠ text := by
  intro heq
  cases e' <;> cases h
  rw [counter_eq, sample_eq_iff e.brace_not_mem_metric (by decide)] at heq
  cases e <;> exact absurd heq.1 (by simp [metric])

theorem count_counter (log : List Event) (e : Event) :
    (log.map counter ++ log.filterMap timer?).count e.counter = log.count e := by
  have htimers : (log.filterMap timer?).count e.counter = 0 := by
    rw [List.count_eq_zero]
    intro hmem
    obtain ⟨e', -, htimer⟩ := List.mem_filterMap.1 hmem
    exact counter_ne_of_timer? htimer rfl
  rw [List.count_append, List.count_map_of_injective _ _ counter_injective, htimers,
    Nat.add_zero]

end Event

/-! ## Lines -/

theorem mem_tally_iff {l : List String} {text : String} {n : Nat} :
    (text, n) ∈ tally l ↔ 0 < n ∧ n = l.count text := by
  simp only [tally, List.mem_map, List.mem_eraseDups, Prod.mk.injEq]
  constructor
  · rintro ⟨text', hmem, rfl, rfl⟩
    exact ⟨List.count_pos_iff.2 hmem, rfl⟩
  · rintro ⟨hpos, rfl⟩
    exact ⟨text, List.count_pos_iff.1 hpos, rfl, rfl⟩

theorem line_injective {text other : String} {n m : Nat} (h : s!"{text} {n}" = s!"{other} {m}") :
    text = other ∧ n = m := by
  have hdigits (n : Nat) : ' ' ∉ (toString n).toList := by
    rw [Nat.toString_eq_ofList_toDigits, String.toList_ofList]
    intro hmem
    exact absurd (Nat.isDigit_of_mem_toDigits (by decide) (by decide) hmem) (by decide)
  have htext (text : String) (n : Nat) : s!"{text} {n}" = text ++ " " ++ toString n := rfl
  rw [htext, htext, ← String.toList_inj] at h
  simp only [String.toList_append, List.append_assoc] at h
  obtain ⟨hname, hnumber⟩ := (append_cons_inj_last (hdigits n) (hdigits m)).1 h
  exact ⟨String.toList_inj.1 hname, toString_nat_injective (String.toList_inj.1 hnumber)⟩

/-- The line of a counter shows how often its event has happened; without the event there is no
line. -/
theorem line_mem_sampleLines_iff {log : List Event} {e : Event} {n : Nat} :
    s!"{e.counter} {n}" ∈ sampleLines log ↔ 0 < n ∧ n = log.count e := by
  rw [← Event.count_counter log e, ← mem_tally_iff, sampleLines, sortTexts, List.mem_mergeSort]
  constructor
  · intro hmem
    obtain ⟨⟨text, n'⟩, hentry, hline⟩ := List.mem_map.1 hmem
    obtain ⟨rfl, rfl⟩ := line_injective hline
    exact hentry
  · exact List.mem_map_of_mem

end SearchGateway.Gateway
