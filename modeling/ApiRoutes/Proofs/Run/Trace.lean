import ApiRoutes.Proofs.Run.Operation
import Mathlib.Data.List.Induction

/-!
# Runs, one operation after the other

A run makes routes by a left fold over the operations of the document. This module says once how
such a fold is taken apart: at any operation (`advanceAll_split`), and step by step for a property
that every step keeps (`advanceAll_induction`).

With the default hooks no route is dropped, so that the route of the `i`th operation is the `i`th
route (`route_at`), made from the state that the operations before it left.
-/

namespace ApiRoutes

namespace Progress

variable {a : Assembler} {p q : Progress}

/-! ## Taking runs apart -/

theorem advance_ok {entry : Document.Entry} (h : p.advance a entry = .ok q) :
    ∃ outcome, a.assemble p.state entry = .ok outcome
      ∧ q.routes = p.routes ++ outcome.route.toList ∧ q.state = outcome.state := by
  obtain ⟨outcome, hmade, h⟩ := bind_ok h
  cases h
  exact ⟨outcome, hmade, rfl, rfl⟩

theorem prefix_of_advance {entry : Document.Entry} (h : p.advance a entry = .ok q) :
    p.routes <+: q.routes := by
  obtain ⟨_, _, hroutes, _⟩ := advance_ok h
  rw [hroutes]
  exact List.prefix_append _ _

theorem advanceAll_append {first second : List Document.Entry}
    (h : p.advanceAll a (first ++ second) = .ok q) :
    ∃ m, p.advanceAll a first = .ok m ∧ m.advanceAll a second = .ok q := by
  unfold advanceAll at *
  rw [List.foldlM_append] at h
  exact bind_ok h

/-- A run is taken apart at one of its operations. -/
theorem advanceAll_split {before after : List Document.Entry} {entry : Document.Entry}
    (h : p.advanceAll a (before ++ entry :: after) = .ok q) :
    ∃ m n, p.advanceAll a before = .ok m ∧ m.advance a entry = .ok n
      ∧ n.advanceAll a after = .ok q := by
  obtain ⟨m, hm, h⟩ := advanceAll_append h
  unfold advanceAll at h
  rw [List.foldlM_cons] at h
  obtain ⟨n, hn, h⟩ := bind_ok h
  exact ⟨m, n, hm, hn, h⟩

/-- What holds at the start of a run and is kept by every step holds at its end. The property may
speak of the operations that were gone through. -/
theorem advanceAll_induction {motive : List Document.Entry → Progress → Prop}
    {entries : List Document.Entry} (start : motive [] p)
    (step : ∀ {done entry m n}, p.advanceAll a done = .ok m → motive done m →
      m.advance a entry = .ok n → motive (done ++ [entry]) n)
    (h : p.advanceAll a entries = .ok q) : motive entries q := by
  induction entries using List.reverseRecOn generalizing q with
  | nil => cases h; exact start
  | append_singleton done entry ih =>
      obtain ⟨m, n, hm, hn, h⟩ := advanceAll_split h
      cases h
      exact step hm (ih hm) hn

/-- Routes are only added. -/
theorem prefix_of_advanceAll {entries : List Document.Entry} (h : p.advanceAll a entries = .ok q) :
    p.routes <+: q.routes := by
  exact advanceAll_induction (motive := fun _ m => p.routes <+: m.routes)
    (List.prefix_refl _) (fun _ hp hstep => hp.trans (prefix_of_advance hstep)) h

end Progress

/-! ## Default hooks -/

/-- What the routes of a run with default hooks share. -/
def Assembler.plain (doc : Document) (options : RouteOptions) (template : NameTemplate) :
    Assembler :=
  { resolver := .ofDocument doc options.affixes
    hooks := .none
    options
    template
    globalSecurity := doc.hasGlobalSecurity }

/-- What the routes of a run share depends on no more of the document than its components and
whether it asks for authentication everywhere. -/
theorem Assembler.ofDocument_eq_of_parts {doc other : Document} {options : RouteOptions}
    (hparts : other.parts = doc.parts) (hglobal : other.hasGlobalSecurity = doc.hasGlobalSecurity) :
    ofDocument other options .none none = ofDocument doc options .none none := by
  unfold ofDocument Resolver.ofDocument
  rw [hparts, hglobal]

/-- A successful run has a template and goes through all operations. -/
theorem run_ok {doc : Document} {options : RouteOptions} {result : RunResult}
    (h : run doc options = .ok result) :
    ∃ template progress,
      Assembler.ofDocument doc options .none none = .ok (.plain doc options template)
      ∧ (Progress.start (.plain doc options template)).advanceAll (.plain doc options template)
        doc.operations = .ok progress
      ∧ result = progress.finish doc options := by
  obtain ⟨a, ha, h⟩ := bind_ok h
  obtain ⟨template, -, hplain⟩ := bind_ok ha
  cases hplain
  obtain ⟨progress, hprogress, h⟩ := bind_ok h
  cases h
  exact ⟨template, progress, ha, hprogress, rfl⟩

/-- A run succeeds if it has a template and goes through all operations. -/
theorem run_of_advanceAll {doc : Document} {options : RouteOptions} {a : Assembler}
    {progress : Progress} (ha : Assembler.ofDocument doc options .none none = .ok a)
    (h : (Progress.start a).advanceAll a doc.operations = .ok progress) :
    run doc options = .ok (progress.finish doc options) := by
  rw [run, runWith, ha]
  show (Progress.start a).advanceAll a doc.operations >>= _ = _
  rw [h]
  rfl

namespace Progress

variable {a : Assembler} {p q : Progress} (hhooks : a.hooks = .none)
include hhooks

/-- One step with default hooks adds one route. -/
theorem advance_plain {entry : Document.Entry} (h : p.advance a entry = .ok q) :
    ∃ base args,
      a.askedName entry = .ok base
        ∧ a.argsOf entry p.state.registry (a.nameOf entry p.state.names base).1.usage = .ok args
        ∧ q.routes = p.routes ++ [a.routeOf entry p.state base args]
        ∧ q.state = a.stateAfter entry p.state base := by
  obtain ⟨outcome, hmade, hroutes, hstate⟩ := advance_ok h
  obtain ⟨base, args, hbase, hargs, hroute, hafter⟩ := Assembler.assemble_ok hmade
  have hkept : outcome.route = some (a.routeOf entry p.state base args) := by
    rw [hroute, hhooks]; rfl
  rw [hkept] at hroutes
  exact ⟨base, args, hbase, hargs, hroutes, hstate.trans hafter⟩

/-- There are as many routes as operations. -/
theorem length_routes {entries : List Document.Entry} (h : p.advanceAll a entries = .ok q) :
    q.routes.length = p.routes.length + entries.length := by
  refine advanceAll_induction
    (motive := fun done m => m.routes.length = p.routes.length + done.length)
    rfl (fun _ hlength hstep => ?_) h
  obtain ⟨_, _, _, _, hroutes, _⟩ := advance_plain hhooks hstep
  rw [hroutes, List.length_append, List.length_append, hlength]
  exact Nat.add_assoc _ _ _

/-- The route of an operation stands at the operation's position, from then on. -/
theorem route_at {before : List Document.Entry} {entry : Document.Entry} {m n : Progress}
    (hm : (start a).advanceAll a before = .ok m) (hn : m.advance a entry = .ok n)
    (hq : n.routes <+: q.routes) :
    ∃ base args,
      a.askedName entry = .ok base
        ∧ a.argsOf entry m.state.registry (a.nameOf entry m.state.names base).1.usage = .ok args
        ∧ n.state = a.stateAfter entry m.state base
        ∧ q.routes[before.length]? = some (a.routeOf entry m.state base args) := by
  obtain ⟨base, args, hbase, hargs, hroutes, hstate⟩ := advance_plain hhooks hn
  refine ⟨base, args, hbase, hargs, hstate, ?_⟩
  have hlength : m.routes.length = before.length := by
    simpa [start] using length_routes hhooks hm
  obtain ⟨rest, hrest⟩ := hq
  rw [← hrest, hroutes, ← hlength]
  simp

/-- Every route was made at some step of the run, from the state that the operations before left. -/
theorem exists_step_of_mem_routes {entries : List Document.Entry}
    (h : (start a).advanceAll a entries = .ok q) :
    ∀ route ∈ q.routes, ∃ done entry m base args,
      done ++ [entry] <+: entries
        ∧ (start a).advanceAll a done = .ok m
        ∧ a.askedName entry = .ok base
        ∧ a.argsOf entry m.state.registry (a.nameOf entry m.state.names base).1.usage = .ok args
        ∧ route = a.routeOf entry m.state base args := by
  induction entries using List.reverseRecOn generalizing q with
  | nil => cases h; exact fun _ hnil => nomatch hnil
  | append_singleton done entry ih =>
      obtain ⟨m, n, hm, hn, h⟩ := advanceAll_split h
      cases h
      obtain ⟨base, args, hbase, hargs, hroutes, -⟩ := advance_plain hhooks hn
      intro route hroute
      rw [hroutes, List.mem_append, List.mem_singleton] at hroute
      rcases hroute with hold | hnew
      · obtain ⟨earlier, entry', m', base', args', hprefix, hmade⟩ := ih hm route hold
        exact ⟨earlier, entry', m', base', args', hprefix.trans (List.prefix_append _ _), hmade⟩
      · exact ⟨done, entry, m, base, args, List.prefix_refl _, hm, hbase, hargs, hnew⟩

/-- Every route was made from some operation of the run. -/
theorem exists_of_mem_routes {entries : List Document.Entry}
    (h : (start a).advanceAll a entries = .ok q) :
    ∀ route ∈ q.routes, ∃ entry ∈ entries, ∃ state base args,
      a.askedName entry = .ok base
        ∧ a.argsOf entry state.registry (a.nameOf entry state.names base).1.usage = .ok args
        ∧ route = a.routeOf entry state base args := by
  intro route hroute
  obtain ⟨done, entry, m, base, args, hprefix, -, hmade⟩ :=
    exists_step_of_mem_routes hhooks h route hroute
  exact ⟨entry, hprefix.subset (List.mem_append_right _ (List.mem_singleton_self entry)),
    m.state, base, args, hmade⟩

end Progress

end ApiRoutes
