import SourceAudit.Application
import SourceAudit.Proofs.Printing
import SourceAudit.Proofs.Registration

/-!
# Runs of an application are independent

Three things outlive a run of an application: the rules in its registry, its last engine, and in
every printer a count with the engine that it belongs to. None of them matters to the next run. The
rules are loaded anew and the engine is a new one, for which no printer has counted yet
(`Console.IsSound`). A run then does what it would do in an application that has the same settings
and never ran (`Console.renewed`).
-/

namespace SourceAudit

/-! ## Runs of an application -/

/-- Two analyses that gave, logged, started and wrote the same. -/
structure Analysis.Alike (x y : Analysis) : Prop where
  result : x.result = y.result
  validator : x.validator = y.validator
  log : x.log = y.log
  actions : x.actions.map Action.anonymous = y.actions.map Action.anonymous
  output : x.output = y.output

namespace Analysis.Alike

variable {x y : Analysis}

theorem commands (alike : x.Alike y) : x.commands = y.commands := by
  have started : ∀ actions : List Action, actions.filterMap Action.started? =
      (actions.map Action.anonymous).filterMap Action.started? := by
    intro actions
    simp [List.filterMap_map]
  simp only [Analysis.commands]
  rw [alike.validator, started x.actions, alike.actions, ← started y.actions]

theorem fullLog (alike : x.Alike y) : x.fullLog = y.fullLog := by
  have logged : ∀ actions : List Action, actions.flatMap Action.log =
      (actions.map Action.anonymous).flatMap Action.log := by
    intro actions
    simp [List.flatMap_map]
  rw [Analysis.fullLog, Analysis.fullLog, alike.log, logged x.actions, alike.actions,
    ← logged y.actions]

end Analysis.Alike

namespace Application

/-- An application with the same settings that never ran and has no observer. -/
def renewed (a : Application) : Application where
  registry := { a.registry with rules := [] }
  extensions := a.extensions
  lintTimeout := a.lintTimeout

/-- The rules that a run loads, if it gets so far: its arguments hold something, the validator is
found, and loading succeeds. -/
def loaded? (a : Application) (w : World) (validator : Text.Wording) (input : String) :
    Option (List Rule) :=
  if validator.isBlank || Text.isBlankText input then none
  else
    match Validator.resolveWording w validator, (a.registry.offered w.tree).outcome with
    | .ok _, .ok rules => some (rules.map (·.2))
    | _, _ => none

/-- The files that a run takes up: those it finds, if it has loaded rules for them. -/
def takenUp (a : Application) (w : World) (validator : Text.Wording) (input : String) :
    List String :=
  match a.loaded? w validator input, discover w.tree input a.extensions with
  | some (_ :: _), .ok d => d.files
  | _, _ => []

/-- The registry with the rules of a load, and no engine yet. -/
def stocked (a : Application) (rules : List (String × Rule)) : Application :=
  { a with registry := { a.registry with rules := rules }, engine := none }

theorem settings_of_renewed {a b : Application} (same : b.renewed = a.renewed) :
    (∀ t, b.registry.offered t = a.registry.offered t) ∧ b.extensions = a.extensions ∧
      b.lintTimeout = a.lintTimeout := by
  have offered := congrArg (fun x : Application => x.registry.offered) same
  obtain ⟨-, extensions, timeout, -⟩ := Application.mk.inj same
  exact ⟨fun t => congrFun offered t, extensions, timeout⟩

/-- The course of a run, which is the same for all applications with the same settings: it stops
before the rules are loaded, or after that, or it comes to an engine. -/
theorem run_course (a : Application) (w : World) (validator : Text.Wording) (input : String) :
    (a.loaded? w validator input = none ∧ ∃ f log, ∀ b : Application, b.renewed = a.renewed →
        b.run w validator input = ({ b with engine := none }, .stopped f log)) ∨
      ∃ rules, a.loaded? w validator input = some (rules.map (·.2)) ∧
        ((∃ f log, discover w.tree input a.extensions = .error f ∧
            ∀ b : Application, b.renewed = a.renewed →
              b.run w validator input = (b.stocked rules, .stopped f log)) ∨
          ∃ v d log, discover w.tree input a.extensions = .ok d ∧
            ∀ b : Application, b.renewed = a.renewed →
              b.run w validator input =
                (b.stocked rules).analyze w v (rules.map (·.2)) d.files log) := by
  by_cases blank : validator.isBlank = true
  · refine .inl ⟨by simp [loaded?, blank], .refused .blankValidator, [], ?_⟩
    intro b _
    simp only [run, blank, if_true]
  by_cases empty : Text.isBlankText input = true
  · refine .inl ⟨by simp [loaded?, empty], .refused .blankInput, [], ?_⟩
    intro b _
    simp only [run, blank, empty, if_true]
    rfl
  cases resolved : Validator.resolveWording w validator with
  | error f =>
    refine .inl ⟨by simp [loaded?, resolved], f, [], ?_⟩
    intro b _
    simp only [run, blank, empty, resolved]
    rfl
  | ok executable =>
    cases outcome : (a.registry.offered w.tree).outcome with
    | error f =>
      refine .inl ⟨by simp [loaded?, resolved, outcome], f, (a.registry.offered w.tree).log, ?_⟩
      intro b same
      obtain ⟨offered, -, -⟩ := settings_of_renewed same
      have kept := Registry.load_of_error ((congrArg LoadResult.outcome (offered _)).trans outcome)
      simp only [run, blank, empty, resolved, kept, offered, outcome]
      rfl
    | ok rules =>
      refine .inr ⟨rules, by simp [loaded?, blank, empty, resolved, outcome], ?_⟩
      cases found : discover w.tree input a.extensions with
      | error f =>
        refine .inl ⟨f, (a.registry.offered w.tree).log, rfl, ?_⟩
        intro b same
        obtain ⟨offered, extensions, -⟩ := settings_of_renewed same
        have filled := (Registry.load_of_ok
          ((congrArg LoadResult.outcome (offered _)).trans outcome)).2
        simp only [run, blank, empty, resolved, filled, offered, outcome, extensions, found]
        simp [stocked, extensions]
      | ok d =>
        refine .inr ⟨⟨executable, a.lintTimeout⟩, d, (a.registry.offered w.tree).log ++ d.log,
          rfl, ?_⟩
        intro b same
        obtain ⟨offered, extensions, timeout⟩ := settings_of_renewed same
        have filled := (Registry.load_of_ok
          ((congrArg LoadResult.outcome (offered _)).trans outcome)).2
        simp only [run, blank, empty, resolved, filled, offered, outcome, extensions, timeout,
          found]
        simp [stocked, extensions, timeout]

section

variable (a : Application) (w : World) (validator : Text.Wording) (input : String)

variable {a} in
/-- Applications with the same settings run alike. -/
theorem run_alike {b : Application} (same : b.renewed = a.renewed)
    (observers : Observer.Alike b.engines a.engines b.observer a.observer) :
    (b.run w validator input).2.Alike (a.run w validator input).2 := by
  rcases a.run_course w validator input with
    ⟨-, f, log, course⟩ | ⟨rules, -, ⟨f, log, -, course⟩ | ⟨v, d, log, -, course⟩⟩
  · rw [course b same, course a rfl]
    exact ⟨rfl, rfl, rfl, rfl, rfl⟩
  · rw [course b same, course a rfl]
    exact ⟨rfl, rfl, rfl, rfl, rfl⟩
  · rw [course b same, course a rfl]
    have engines : Observer.Alike (Engine.mk b.engines 0).identity (Engine.mk a.engines 0).identity
      b.observer a.observer := observers
    obtain ⟨alike, faults⟩ :=
      Engine.run_alike engines (tools w v) (rules.map (·.2)) d.files
    refine ⟨?_, rfl, rfl, alike.actions, alike.output⟩
    simp only [analyze, stocked, Run.result, faults, alike.report]

/-- A run keeps the settings. -/
theorem renewed_run : (a.run w validator input).1.renewed = a.renewed := by
  rcases a.run_course w validator input with
    ⟨-, f, log, course⟩ | ⟨rules, -, ⟨f, log, -, course⟩ | ⟨v, d, log, -, course⟩⟩
  all_goals
    rw [course a rfl]
    rfl

theorem rules_run : (a.run w validator input).1.registry.rules.map (·.2) =
    (a.loaded? w validator input).getD (a.registry.rules.map (·.2)) := by
  rcases a.run_course w validator input with
    ⟨loaded, f, log, course⟩ | ⟨rules, loaded, ⟨f, log, -, course⟩ | ⟨v, d, log, -, course⟩⟩
  all_goals
    rw [course a rfl, loaded]
    rfl

theorem numberOfFiles_run : (a.run w validator input).1.numberOfFiles =
    (a.takenUp w validator input).length := by
  rcases a.run_course w validator input with
    ⟨loaded, f, log, course⟩ |
    ⟨rules, loaded, ⟨f, log, found, course⟩ | ⟨v, d, log, found, course⟩⟩
  · rw [course a rfl, takenUp, loaded]
    rfl
  · rw [course a rfl, takenUp, found]
    split
    · next h => cases h
    · rfl
  · rw [course a rfl, takenUp, loaded, found]
    by_cases noRules : rules = []
    · simp [noRules, analyze, numberOfFiles, Engine.run]
    · obtain ⟨rule, others, split⟩ := List.exists_cons_of_ne_nil noRules
      by_cases noFiles : d.files = []
      · simp [split, noFiles, analyze, numberOfFiles, Engine.run]
      · simp [split, noFiles, analyze, numberOfFiles, Engine.run]

theorem engines_le_run : a.engines ≤ (a.run w validator input).1.engines := by
  rcases a.run_course w validator input with
    ⟨-, f, log, course⟩ | ⟨rules, -, ⟨f, log, -, course⟩ | ⟨v, d, log, -, course⟩⟩
  · have kept := congrArg (fun x => x.1.engines) (course a rfl)
    exact Nat.le_of_eq kept.symm
  · have kept := congrArg (fun x => x.1.engines) (course a rfl)
    exact Nat.le_of_eq kept.symm
  · rw [course a rfl]
    exact Nat.le_succ _

variable {a} in
/-- A run leaves its printer with its width, and the count in it belongs to an engine that has been
made. -/
theorem isPrinter_run {width? : Option Int}
    (start : Observer.IsPrinter width? a.engines a.observer) :
    Observer.IsPrinter width? (a.run w validator input).1.engines
      (a.run w validator input).1.observer := by
  rcases a.run_course w validator input with
    ⟨-, f, log, course⟩ | ⟨rules, -, ⟨f, log, -, course⟩ | ⟨v, d, log, -, course⟩⟩
  · rw [course a rfl]
    exact start
  · rw [course a rfl]
    exact start
  · rw [course a rfl]
    have later := start.mono (Nat.le_succ _)
    exact Engine.isPrinter_run later

end

end Application

/-! ## Sequences of requests -/

/-- An application, and the printers that were made for it. -/
structure Console where
  application : Application := {}
  /-- In the order they were made; a printer that has written stands here as it was left. -/
  printers : List DotPrinter := []
  /-- The place of the printer that is the application's observer. -/
  watched : Option Nat := none

namespace Console

/-- What can be asked of an application from outside. -/
inductive Request where
  | enable (flag : Value)
  | addPath (path : String)
  | disable (name : Value)
  | makePrinter (width : Int)
  | watch (printer : Option Nat)
  | run (validator : Text.Wording) (input : String)
  deriving Repr

/-- Whether the request changes the console and runs nothing. -/
def Request.isSetting : Request → Bool
  | .run .. => false
  | _ => true

/-- The printer that is registered. -/
def printer? (c : Console) : Option DotPrinter :=
  c.watched.bind (c.printers[·]?)

/-- Puts the registered printer back as a run left it. -/
def putBack (c : Console) : Option Observer → List DotPrinter
  | some (.dots p) => c.watched.elim c.printers (c.printers.set · p)
  | _ => c.printers

/-- Operates the application's registry; an operation that fails changes nothing. -/
def configure (c : Console) (w : World) (op : Registry.Operation) : Console :=
  { c with application :=
      { c.application with registry := (c.application.registry.operate w.tree op).1 } }

/-- The application as it is when a run begins. -/
def ready (c : Console) : Application :=
  { c.application with observer := c.printer?.map .dots }

/-- Runs the application with the registered printer, and puts that printer back. -/
def run (c : Console) (w : World) (validator : Text.Wording) (input : String) :
    Console × Analysis :=
  let (a, analysis) := c.ready.run w validator input
  ({ c with application := a, printers := c.putBack a.observer }, analysis)

/-- The console after a request. A printer is registered by its number; without one, and with a
number that no printer has, there is no observer. -/
def handle (w : World) (c : Console) : Request → Console
  | .enable flag => c.configure w (.enable flag)
  | .addPath path => c.configure w (.addPath path)
  | .disable name => c.configure w (.disable name)
  | .makePrinter width => { c with printers := c.printers ++ [{ width := width }] }
  | .watch printer => { c with watched := printer.filter (· < c.printers.length) }
  | .run validator input => (c.run w validator input).1

/-- The console after all requests, in their order. -/
def handleAll (w : World) (c : Console) (requests : List Request) : Console :=
  requests.foldl (handle w) c

/-- The rules that a request loads, if it is a run that gets so far. -/
def loaded? (w : World) (c : Console) : Request → Option (List Rule)
  | .run validator input => c.application.loaded? w validator input
  | _ => none

/-- The lists of rules that the runs among requests loaded. -/
def loads (w : World) (c : Console) : List Request → List (List Rule)
  | [] => []
  | request :: requests => (c.loaded? w request).toList ++ loads w (c.handle w request) requests

/-- A console with the same settings and as many printers, none of which was ever used. -/
def renewed (c : Console) : Console where
  application := c.application.renewed
  printers := c.printers.map fun p => { width := p.width }
  watched := c.watched

/-- No printer has counted for an engine that is still to come. -/
def IsSound (c : Console) : Prop :=
  ∀ p ∈ c.printers, p.IsPast c.application.engines

section

variable {c : Console}

theorem mem_of_printer? {p : DotPrinter} (registered : c.printer? = some p) : p ∈ c.printers := by
  obtain ⟨i, -, here⟩ := Option.bind_eq_some_iff.1 registered
  exact List.mem_of_getElem? here

theorem isPrinter_ready (sound : c.IsSound) :
    Observer.IsPrinter (c.printer?.map DotPrinter.width) c.ready.engines c.ready.observer := by
  refine ⟨c.printer?, rfl, rfl, ?_⟩
  intro p registered
  exact sound p (mem_of_printer? registered)

theorem alike_ready (sound : c.IsSound) :
    Observer.Alike c.ready.engines c.renewed.ready.engines c.ready.observer
      c.renewed.ready.observer := by
  have unused : c.renewed.printer? = c.printer?.map fun p => { width := p.width } := by
    cases watched : c.watched <;> simp [printer?, renewed, watched]
  simp only [ready, unused]
  cases registered : c.printer? with
  | none => exact .none
  | some p =>
    -- Neither has counted a file for the engine that is about to be made.
    have past := sound p (mem_of_printer? registered)
    refine .dots rfl ?_
    rw [past.seen]
    rfl

/-- To put a printer back changes no width and adds no count for an engine to come. -/
theorem putBack_keeps {engines : Nat} {o : Option Observer}
    (left : Observer.IsPrinter (c.printer?.map DotPrinter.width) engines o) :
    (c.putBack o).map DotPrinter.width = c.printers.map DotPrinter.width ∧
      ((∀ p ∈ c.printers, p.IsPast engines) → ∀ p ∈ c.putBack o, p.IsPast engines) := by
  obtain ⟨p?, rfl, width, past⟩ := left
  cases p? with
  | none => exact ⟨rfl, id⟩
  | some p =>
    cases watched : c.watched with
    | none =>
      simp only [putBack, Option.map_some, watched, Option.elim_none]
      exact ⟨trivial, id⟩
    | some i =>
      simp only [putBack, Option.map_some, watched, Option.elim_some]
      refine ⟨?_, ?_⟩
      · have same : (c.printers.map DotPrinter.width)[i]? = some p.width := by
          simpa [printer?, watched] using width.symm
        rw [List.map_set]
        obtain ⟨bound, here⟩ := List.getElem?_eq_some_iff.1 same
        rw [← here, List.set_getElem_self]
      · intro before q mem
        rcases List.mem_or_eq_of_mem_set mem with old | rfl
        · exact before q old
        · exact past q rfl

theorem isSound_run (sound : c.IsSound) (w : World) (validator : Text.Wording) (input : String) :
    (c.run w validator input).1.IsSound := by
  have left := Application.isPrinter_run w validator input (isPrinter_ready sound)
  refine (putBack_keeps left).2 ?_
  intro p mem
  exact (sound p mem).mono (c.ready.engines_le_run w validator input)

theorem isSound_handle (sound : c.IsSound) (w : World) (request : Request) :
    (c.handle w request).IsSound := by
  cases request with
  | makePrinter width =>
    intro p mem
    rcases List.mem_append.1 mem with old | new
    · exact sound p old
    · obtain rfl := List.mem_singleton.1 new
      nofun
  | run validator input => exact isSound_run sound w validator input
  | _ => exact sound

theorem isSound_handleAll (sound : c.IsSound) (w : World) (requests : List Request) :
    (c.handleAll w requests).IsSound := by
  induction requests generalizing c with
  | nil => exact sound
  | cons request requests ih => exact ih (isSound_handle sound w request)

theorem renewed_run (sound : c.IsSound) (w : World) (validator : Text.Wording) (input : String) :
    (c.run w validator input).1.renewed = c.renewed := by
  have left := Application.isPrinter_run w validator input (isPrinter_ready sound)
  have application := c.ready.renewed_run w validator input
  have printers := congrArg (List.map fun width => ({ width := width } : DotPrinter))
    (putBack_keeps left).1
  simp only [List.map_map, Function.comp_def] at printers
  simp only [run, renewed, application, printers]
  rfl

/-- The rules of the registry play no part in its settings. -/
theorem operate_renewed (r : Registry) (t : FileTree) {op : Registry.Operation}
    (setting : op ≠ .load) :
    { (r.operate t op).1 with rules := [] } = (Registry.operate t { r with rules := [] } op).1 := by
  cases op with
  | enable flag => cases flag <;> rfl
  | addPath path =>
    simp only [Registry.operate, Registry.addPath]
    split
    · rfl
    · rfl
    · split <;> rfl
  | disable name =>
    simp only [Registry.operate, Registry.disable]
    split
    · rfl
    · split <;> rfl
  | load => exact absurd rfl setting

theorem renewed_configure (c : Console) (w : World) {op : Registry.Operation}
    (setting : op ≠ .load) : (c.configure w op).renewed = c.renewed.configure w op := by
  have registry := operate_renewed c.application.registry w.tree setting
  simp only [configure, renewed, Application.renewed, registry]

theorem renewed_handle (c : Console) (w : World) {request : Request}
    (setting : request.isSetting = true) :
    (c.handle w request).renewed = c.renewed.handle w request := by
  cases request with
  | enable flag => exact c.renewed_configure w nofun
  | addPath path => exact c.renewed_configure w nofun
  | disable name => exact c.renewed_configure w nofun
  | makePrinter width => simp [handle, renewed]
  | watch printer => simp [handle, renewed]
  | run validator input => cases setting

/-- Of all that was asked, only the settings matter to a console that is renewed. -/
theorem renewed_handleAll (sound : c.IsSound) (w : World) (requests : List Request) :
    (c.handleAll w requests).renewed =
      c.renewed.handleAll w (requests.filter Request.isSetting) := by
  induction requests generalizing c with
  | nil => rfl
  | cons request requests ih =>
    have later := ih (isSound_handle sound w request)
    by_cases setting : request.isSetting = true
    · rw [List.filter_cons_of_pos setting]
      rw [renewed_handle c w setting] at later
      exact later
    · -- What a run leaves behind is all forgotten when the console is renewed.
      rw [List.filter_cons_of_neg setting]
      cases request with
      | run validator input =>
        rw [handle, renewed_run sound] at later
        exact later
      | _ => exact absurd rfl setting

theorem rules_handle (c : Console) (w : World) (request : Request) :
    (c.handle w request).application.registry.rules.map (·.2) =
      (c.loaded? w request).getD (c.application.registry.rules.map (·.2)) := by
  cases request with
  | enable flag => exact congrArg _ (Registry.rules_operate_of_ne_load nofun)
  | addPath path => exact congrArg _ (Registry.rules_operate_of_ne_load nofun)
  | disable name => exact congrArg _ (Registry.rules_operate_of_ne_load nofun)
  | makePrinter width => rfl
  | watch printer => rfl
  | run validator input => exact c.ready.rules_run w validator input

theorem rules_handleAll (c : Console) (w : World) (requests : List Request) :
    (c.handleAll w requests).application.registry.rules.map (·.2) =
      (c.loads w requests).getLast?.getD (c.application.registry.rules.map (·.2)) := by
  induction requests generalizing c with
  | nil => rfl
  | cons request requests ih =>
    have later := ih (c.handle w request)
    rw [handleAll, List.foldl_cons, ← handleAll, later, rules_handle, loads,
      Registry.getLastD_toList_append]

end

/-- A run does not depend on what was asked before it, but for the settings. After any requests to a
new application, it gives the same report or fault, starts the same validator processes, writes the
same progress and logs the same as it does after the settings among these requests alone. It leaves
the number of the files that it took up, and the settings as they were. And the rules are always
those that the last run loaded, of the runs that came so far. -/
theorem runs_are_independent (w : World) (flag : Bool) (catalogue : Catalogue)
    (extensions : List String) (lintTimeout : Option Quantity) (requests : List Request)
    (validator : Text.Wording) (input : String) :
    let new : Application :=
      { registry := { enableBuiltin := flag, catalogue }, extensions, lintTimeout }
    let start : Console := { application := new }
    let used := start.handleAll w requests
    let fresh := start.handleAll w (requests.filter Request.isSetting)
    let next := used.run w validator input
    let first := fresh.run w validator input
    (next.2.result = first.2.result ∧ next.2.commands = first.2.commands ∧
      next.2.output = first.2.output ∧ next.2.fullLog = first.2.fullLog) ∧
    next.1.application.numberOfFiles = (fresh.application.takenUp w validator input).length ∧
    used.application.registry.rules.map (·.2) = (start.loads w requests).getLast?.getD [] ∧
    (next.1.application.registry.paths = used.application.registry.paths ∧
      next.1.application.registry.disabled = used.application.registry.disabled ∧
      next.1.application.registry.enableBuiltin = used.application.registry.enableBuiltin ∧
      next.1.application.extensions = used.application.extensions) := by
  intro new start used fresh next first
  have unused : start.IsSound := by
    intro p mem
    cases mem
  have sound : used.IsSound := isSound_handleAll unused w requests
  have same : used.renewed = fresh := renewed_handleAll unused w requests
  have alike : next.2.Alike first.2 := by
    have observers := alike_ready sound
    rw [same] at observers
    refine Application.run_alike w validator input ?_ observers
    rw [← same]
    rfl
  have kept : next.1.application.renewed = used.application.renewed :=
    used.ready.renewed_run w validator input
  refine ⟨⟨alike.result, alike.commands, alike.output, alike.fullLog⟩, ?_,
    rules_handleAll start w requests, ?_⟩
  · have count := used.ready.numberOfFiles_run w validator input
    rw [← same]
    exact count
  · obtain ⟨registry, extensions, -⟩ := Application.mk.inj kept
    obtain ⟨enableBuiltin, -, paths, disabled, -⟩ := Registry.mk.inj registry
    exact ⟨paths, disabled, enableBuiltin, extensions⟩

end Console

end SourceAudit
