import ApiRoutes.Naming.ArgNames
import ApiRoutes.Proofs.Data.Occurrences

/-!
# Calls for argument names

The names of a route's arguments are handed out in several calls on one list of reserved names, and
some calls fail. The call itself looks at the distinct candidates that are not empty; what it should
answer can be said of the candidates as they are given (`Answers`): the first one that is free, or
that there is none, with what was asked for.

- **One call** answers so for the names reserved before it, and reserves what it hands out
  (`answers_attempt`, `reserved_attempt`).
- **A run of calls** goes on from there: the names reserved at any time are the initial ones and those
  handed out so far, of which none was reserved before (`handedOut_attemptAll`).
-/

namespace ApiRoutes.ArgNames

/-! ## What a call should answer -/

/-- A name that can be handed out when these are taken. -/
def IsFree (taken : List String) (name : String) : Prop := name ≠ "" ∧ name ∉ taken

instance (taken : List String) (name : String) : Decidable (IsFree taken name) :=
  inferInstanceAs (Decidable (_ ∧ _))

/-- The first candidate that is free. -/
def IsFirstFree (taken candidates : List String) (name : String) : Prop :=
  IsFree taken name
    ∧ ∃ before after, candidates = before ++ name :: after ∧ ∀ c ∈ before, ¬ IsFree taken c

/-- The candidates that are not empty, each once, in the order in which they first appear. -/
structure Lists (candidates listed : List String) : Prop where
  mem_iff : ∀ name, name ∈ listed ↔ name ∈ candidates ∧ name ≠ ""
  ordered : listed.Pairwise fun first second => candidates.idxOf first < candidates.idxOf second

/-- The answer to a call for one of the candidates, when these names are taken. -/
def Answers (taken candidates : List String) : Except ArgNameError String → Prop
  | .ok name => IsFirstFree taken candidates name
  | .error error =>
    (∀ c ∈ candidates, ¬ IsFree taken c) ∧ Lists candidates error.candidates
      ∧ error.reserved = taken

theorem Answers.fails_iff {taken candidates : List String} {answer : Except ArgNameError String}
    (h : Answers taken candidates answer) :
    (∃ error, answer = .error error) ↔ ∀ c ∈ candidates, ¬ IsFree taken c := by
  cases answer with
  | ok name =>
      obtain ⟨hfree, before, after, rfl, -⟩ := h
      have hmem : name ∈ before ++ name :: after := List.mem_append_right _ List.mem_cons_self
      exact iff_of_false nofun fun hnone => hnone name hmem hfree
  | error error => exact iff_of_true ⟨error, rfl⟩ h.1

/-! ## One call -/

theorem mem_usable {candidates : List String} {name : String} :
    name ∈ usable candidates ↔ name ∈ candidates ∧ name ≠ "" := by
  simp [usable]

theorem usable_concat (candidates : List String) (name : String) :
    usable (candidates ++ [name]) =
      if name = "" then usable candidates else Text.addNew (usable candidates) name := by
  unfold usable
  rw [List.filter_append]
  by_cases hname : name = ""
  · simp [hname]
  · simp [hname, Text.distinct_concat]

/-- A candidate at the end is listed last, and only if it was not there. -/
theorem lists_usable (candidates : List String) : Lists candidates (usable candidates) := by
  refine ⟨fun name => mem_usable, ?_⟩
  induction candidates using List.reverseRecOn with
  | nil => exact List.Pairwise.nil
  | append_singleton candidates name ih =>
      have hkeep : ∀ c ∈ usable candidates,
          (candidates ++ [name]).idxOf c = candidates.idxOf c := fun c hc =>
        List.idxOf_append_of_mem (mem_usable.mp hc).1
      have hold : (usable candidates).Pairwise fun first second =>
          (candidates ++ [name]).idxOf first < (candidates ++ [name]).idxOf second :=
        ih.imp_of_mem fun hfirst hsecond hlt => by rwa [hkeep _ hfirst, hkeep _ hsecond]
      rw [usable_concat, Text.addNew]
      split
      · exact hold
      · rename_i hname
        split
        · exact hold
        · rename_i hnew
          have hlast : name ∉ candidates := fun hmem => hnew (mem_usable.mpr ⟨hmem, hname⟩)
          refine List.pairwise_append.mpr ⟨hold, List.pairwise_singleton _ _, ?_⟩
          intro first hfirst second hsecond
          obtain rfl := List.mem_singleton.mp hsecond
          rw [hkeep first hfirst, List.idxOf_append_of_notMem hlast]
          have hlt := List.idxOf_lt_length_iff.mpr (mem_usable.mp hfirst).1
          omega

/-- The first usable candidate that is not taken is the first one that is free. -/
theorem find?_usable (taken candidates : List String) :
    (usable candidates).find? (!taken.contains ·)
      = candidates.find? fun name => decide (IsFree taken name) := by
  rw [usable, Text.find?_distinct, List.find?_filter]
  congr 1
  funext name
  rw [Bool.eq_iff_iff, decide_eq_true_iff (p := IsFree taken name)]
  simp [IsFree]

/-- All that a call can do. -/
theorem attempt_cases (names : ArgNames) (candidates : List String) :
    (∃ name, IsFirstFree names.reserved candidates name
        ∧ names.attempt candidates = (.ok name, ⟨names.reserved ++ [name]⟩))
      ∨ (∀ c ∈ candidates, ¬ IsFree names.reserved c)
        ∧ names.attempt candidates = (.error ⟨usable candidates, names.reserved⟩, names) := by
  unfold attempt resolve
  rw [find?_usable]
  cases hfound : candidates.find? fun name => decide (IsFree names.reserved name) with
  | some name =>
      obtain ⟨hfree, before, after, hsplit, hbefore⟩ := List.find?_eq_some_iff_append.mp hfound
      exact .inl ⟨name, ⟨of_decide_eq_true hfree, before, after, hsplit,
        fun c hc => by simpa using hbefore c hc⟩, rfl⟩
  | none => exact .inr ⟨fun c hc => by simpa using List.find?_eq_none.mp hfound c hc, rfl⟩

section

variable (names : ArgNames) (candidates : List String)

theorem answers_attempt : Answers names.reserved candidates (names.attempt candidates).1 := by
  rcases attempt_cases names candidates with ⟨name, hname, heq⟩ | ⟨hnone, heq⟩
  · rw [heq]
    exact hname
  · rw [heq]
    exact ⟨hnone, lists_usable candidates, rfl⟩

/-- A call reserves the name that it hands out, and nothing else. -/
theorem reserved_attempt : (names.attempt candidates).2.reserved
    = names.reserved ++ (names.attempt candidates).1.toOption.toList := by
  rcases attempt_cases names candidates with ⟨name, -, heq⟩ | ⟨-, heq⟩
  · rw [heq]
    rfl
  · rw [heq]
    exact (List.append_nil _).symm

theorem attempt_of_error {error : ArgNameError}
    (h : (names.attempt candidates).1 = .error error) : (names.attempt candidates).2 = names := by
  rcases attempt_cases names candidates with ⟨name, -, heq⟩ | ⟨-, heq⟩
  · rw [heq] at h
    cases h
  · rw [heq]

end

/-! ## A run of calls -/

/-- The names that the calls of a run handed out. -/
def given (run : List (Except ArgNameError String × ArgNames)) : List String :=
  run.filterMap (·.1.toOption)

/-- The names before the first call of a run and after each. -/
def states (names : ArgNames) (run : List (Except ArgNameError String × ArgNames)) : List ArgNames :=
  names :: run.map (·.2)

/-- What a run of calls does, from the names before it. -/
structure HandedOut (names : ArgNames) (calls : List (List String))
    (run : List (Except ArgNameError String × ArgNames)) : Prop where
  length_eq : run.length = calls.length
  /-- A call is answered for the names reserved initially and those handed out before it. -/
  answers : ∀ (i : Nat) candidates answer after, calls[i]? = some candidates →
    run[i]? = some (answer, after) →
      Answers (names.reserved ++ given (run.take i)) candidates answer
        ∧ ((∃ error, answer = .error error) ↔
          ∀ c ∈ candidates, ¬ IsFree (names.reserved ++ given (run.take i)) c)
  /-- A call that fails leaves the names as they were before it. -/
  failed : ∀ (i : Nat) error after, run[i]? = some (.error error, after) →
    (states names run)[i]? = some after
  /-- After some of the calls, what they handed out is reserved in addition. -/
  reserved : ∀ (i : Nat) state, (states names run)[i]? = some state →
    state.reserved = names.reserved ++ given (run.take i)
  nodup : (given run).Nodup
  disjoint : ∀ name ∈ given run, name ∉ names.reserved

theorem given_cons (step : Except ArgNameError String × ArgNames)
    (run : List (Except ArgNameError String × ArgNames)) :
    given (step :: run) = step.1.toOption.toList ++ given run := by
  obtain ⟨answer, after⟩ := step
  cases answer <;> rfl

theorem Answers.not_mem_of_mem_toOption {taken candidates : List String}
    {answer : Except ArgNameError String} (h : Answers taken candidates answer) :
    ∀ name ∈ answer.toOption.toList, name ∉ taken := by
  cases answer with
  | ok given =>
      intro name hname
      obtain rfl := List.mem_singleton.mp hname
      exact h.1.2
  | error error => exact nofun

/-- A run starts with its first call, and goes on as one from the names after it. -/
theorem HandedOut.cons {names : ArgNames} {candidates : List String} {calls : List (List String)}
    {run : List (Except ArgNameError String × ArgNames)}
    (h : HandedOut (names.attempt candidates).2 calls run) :
    HandedOut names (candidates :: calls) (names.attempt candidates :: run) := by
  have hanswers := answers_attempt names candidates
  have hreserved := reserved_attempt names candidates
  have hfailed : ∀ error, (names.attempt candidates).1 = .error error →
      (names.attempt candidates).2 = names := fun _ => attempt_of_error names candidates
  generalize names.attempt candidates = step at *
  obtain ⟨answer, after⟩ := step
  have htake : ∀ i, names.reserved ++ given (((answer, after) :: run).take (i + 1))
      = after.reserved ++ given (run.take i) := fun i => by
    rw [List.take_succ_cons, given_cons, hreserved, List.append_assoc]
  have hfirst : names.reserved ++ given (((answer, after) :: run).take 0) = names.reserved :=
    List.append_nil _
  constructor
  case length_eq => exact congrArg (· + 1) h.length_eq
  case answers =>
    intro i candidates' answer' after' hcall hrun
    cases i with
    | zero =>
        cases hcall
        cases hrun
        rw [hfirst]
        exact ⟨hanswers, hanswers.fails_iff⟩
    | succ i =>
        rw [htake]
        exact h.answers i candidates' answer' after' hcall hrun
  case failed =>
    intro i error after' hrun
    cases i with
    | zero =>
        cases hrun
        exact congrArg some (hfailed error rfl).symm
    | succ i => exact h.failed i error after' hrun
  case reserved =>
    intro i state hstate
    cases i with
    | zero =>
        cases hstate
        exact hfirst.symm
    | succ i =>
        rw [htake]
        exact h.reserved i state hstate
  case nodup =>
    rw [given_cons]
    have hlater : ∀ name ∈ given run, name ∉ answer.toOption.toList := fun name hname hmem =>
      h.disjoint name hname (hreserved ▸ List.mem_append_right _ hmem)
    exact List.nodup_append.mpr
      ⟨Option.toList_nodup _, h.nodup, fun a ha b hb heq => hlater b hb (heq ▸ ha)⟩
  case disjoint =>
    intro name hname
    rw [given_cons] at hname
    rcases List.mem_append.mp hname with hnow | hlater
    · exact hanswers.not_mem_of_mem_toOption name hnow
    · exact fun hmem => h.disjoint name hlater (hreserved ▸ List.mem_append_left _ hmem)

/-- **Handing out names.** Each call of a run is answered by the first candidate that is neither
reserved initially nor handed out before, and fails exactly if there is none; the names that are
handed out differ and are reserved in this order. -/
theorem handedOut_attemptAll (names : ArgNames) (calls : List (List String)) :
    HandedOut names calls (names.attemptAll calls) := by
  induction calls generalizing names with
  | nil =>
      refine ⟨rfl, nofun, nofun, fun i state hstate => ?_, List.nodup_nil, nofun⟩
      cases i with
      | zero =>
          cases hstate
          exact (List.append_nil _).symm
      | succ i => cases hstate
  | cons candidates calls ih => exact (ih (names.attempt candidates).2).cons

/-- A failed call between two that succeed. -/
example : ((⟨["data"]⟩ : ArgNames).attemptAll
      [["data", "body"], ["", "data", "body", "data"], ["body", "reqBody"]]).map (·.1)
    = [.ok "body", .error ⟨["data", "body"], ["data", "body"]⟩, .ok "reqBody"] := by
  decide

end ApiRoutes.ArgNames
