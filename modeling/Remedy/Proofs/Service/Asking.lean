import Remedy.Proofs.Trace.Files
import Remedy.Service.File

/-!
# Asking the model about a batch

What the steps of solving a batch of incidents do. Each incident is described, with a solved example
if one is found; then the model is asked until an answer gives an updated file, a limited number of
times. What comes of it depends on the store and the model and not on the host, as long as the trace
can be written and the tape of the file can be saved.

Main results:

* `consume_ofKinds`: a solution can always be shown in the ways of a configuration.
* `describeIncidents_onSession`: describing incidents works on the store and the model alone.
* `attemptOnce_of_unsaved`: an answer whose tape cannot be saved stays in the file, though the attempt
  fails.
* `askUpTo_records`: asking extends the file by the first acceptable answer among so many attempts, and
  asks no further; the trace gets the files of these attempts.
* `solveBatch_records`, `solveBatch_exec`: what solving a batch makes of the file so far, and of the
  trace.
-/

namespace Remedy

open Remedy.Action

/-! ## Solved examples -/

namespace ConsumerChoice

theorem exists_showOne (s : Solution) (kind : ConsumerKind) : ∃ text, showOne s kind = .ok text := by
  cases kind with
  | diffOnly => exact ⟨_, rfl⟩
  | beforeAndAfter => exact ⟨_, rfl⟩
  | llmSummary =>
    rw [showOne]
    cases s.summary with
    | none => exact ⟨"", rfl⟩
    | some _ => exact ⟨_, rfl⟩

/-- A solution can always be shown in ways that are known. -/
theorem consume_ofKinds (s : Solution) (kinds : List ConsumerKind) :
    ∃ text, consume s (ofKinds kinds) = .ok text := by
  have hall : ∃ texts, consumeAll s (kinds.map .one) = .ok texts := by
    induction kinds with
    | nil => exact ⟨[], rfl⟩
    | cons kind rest ih =>
      obtain ⟨first, hfirst⟩ := exists_showOne s kind
      obtain ⟨others, hothers⟩ := ih
      refine ⟨first :: others, ?_⟩
      rw [List.map_cons, consumeAll, consume, hfirst, hothers]
      rfl
  obtain ⟨texts, htexts⟩ := hall
  refine ⟨Text.join "\n" texts, ?_⟩
  rw [ofKinds, consume, htexts]
  rfl

end ConsumerChoice

namespace Service

/-- The text that shows a solution; nothing if it cannot be shown. -/
def exampleText (choice : ConsumerChoice) (s : Solution) : String :=
  (ConsumerChoice.consume s choice).toOption.getD ""

/-- The incident as the prompt is given it, when these solutions were found for it. -/
def describedWith (setup : ServiceSetup) (i : ExtendedIncident) (found : List Solution) : Json :=
  let shown := ExtendedIncident.fields { i with vars := setup.finder.kept i.vars }
  match found with
  | [] => .obj shown
  | first :: _ =>
    if (exampleText setup.consumer first).isEmpty then .obj shown
    else .obj (Fields.set shown "solution_str" (.str (exampleText setup.consumer first)))

/-- Describes an incident, given how solutions are found. -/
def describe (setup : ServiceSetup) (look : Store.Query → Action Store.Session (List Solution))
    (withExamples : Bool) (i : ExtendedIncident) : Action Store.Session Json := do
  if withExamples then
    let found ← look ⟨i.ruleset, i.violation, i.vars, some i.snippet⟩
    return describedWith setup i found
  else return i.encode

/-! ## Actions on the session -/

/-- The first action does to the service what the second does to the session; at most, it also notes
what is looked up. -/
def WorksOnSession {α : Type} (a : Action Service α) (b : Action Store.Session α) : Prop :=
  ∀ s : Service, ∃ queries,
    a.exec s = ((b.exec s.session).1, { s with session := (b.exec s.session).2, queries })

section WorksOnSession

variable {α β : Type}

theorem WorksOnSession.pure (x : α) :
    WorksOnSession (Pure.pure x : Action Service α) (Pure.pure x) :=
  fun s => ⟨s.queries, rfl⟩

theorem WorksOnSession.bind {a : Action Service α} {b : Action Store.Session α}
    {f : α → Action Service β} {g : α → Action Store.Session β} (hab : WorksOnSession a b)
    (hfg : ∀ x, WorksOnSession (f x) (g x)) : WorksOnSession (a >>= f) (b >>= g) := by
  intro s
  obtain ⟨queries, ha⟩ := hab s
  rw [exec_bind, exec_bind, ha]
  rcases b.exec s.session with ⟨o, t⟩
  cases o with
  | error e => exact ⟨queries, rfl⟩
  | ok x => exact hfg x { s with session := t, queries }

theorem WorksOnSession.mapM {f : α → Action Service β} {g : α → Action Store.Session β}
    (hfg : ∀ x, WorksOnSession (f x) (g x)) (xs : List α) :
    WorksOnSession (xs.mapM f) (xs.mapM g) := by
  induction xs with
  | nil => exact .pure []
  | cons x xs ih =>
    rw [List.mapM_cons, List.mapM_cons]
    exact (hfg x).bind fun y => ih.bind fun ys => .pure (y :: ys)

end WorksOnSession

variable {setup : ServiceSetup} {kinds : List ConsumerKind}
  {look : Store.Query → Action Store.Session (List Solution)}

theorem lookUp_onSession (hfinder : ∀ q, setup.finder.find q = onSession (look q))
    (q : Store.Query) : WorksOnSession (lookUp setup.finder q) (look q) := by
  intro s
  refine ⟨s.queries ++ [q], ?_⟩
  rw [lookUp, exec_bind_of_ok (exec_modify _ s), hfinder]
  rfl

theorem describeIncident_onSession (hconsumer : setup.consumer = .ofKinds kinds)
    (hfinder : ∀ q, setup.finder.find q = onSession (look q)) (withExamples : Bool)
    (i : ExtendedIncident) :
    WorksOnSession (describeIncident setup withExamples i) (describe setup look withExamples i) := by
  cases withExamples with
  | false => exact .pure i.encode
  | true =>
    refine (lookUp_onSession hfinder _).bind fun found => ?_
    cases found with
    | nil => exact .pure _
    | cons first rest =>
      obtain ⟨text, htext⟩ := ConsumerChoice.consume_ofKinds first kinds
      have hexample : exampleText setup.consumer first = text := by
        rw [exampleText, hconsumer, htext]
        rfl
      -- showing the example reads nothing and cannot fail
      intro s
      refine ⟨s.queries, ?_⟩
      dsimp only
      rw [hconsumer, htext, exec_bind_of_ok (exec_ofOutcome _ s), describedWith, hexample]
      split
      · rfl
      · rfl

/-! ## Traces that can be written -/

end Service

/-- A kind of hosts on which a trace can be written, and on which writing and waiting leave a host of
that kind. -/
structure Trace.Writable (t : Trace) (P : Host → Prop) : Prop where
  prompt : ∀ {h : Host}, P h → ∀ (batch : Int) (text : String) (values : Fields),
    values.has Trace.modelValue = true →
    ∃ h', P h' ∧ (t.recordPrompt batch text values).exec h = (.ok (), h')
  answer : ∀ {h : Host}, P h → ∀ (batch attempt : Int) (shown : String),
    ∃ h', P h' ∧ (t.recordAnswer batch attempt shown).exec h = (.ok (), h')
  failure : ∀ {h : Host}, P h → ∀ (batch attempt : Int) (text origin : String),
    ∃ h', P h' ∧ (t.recordFailure batch attempt text origin).exec h = (.ok (), h')
  sleep : ∀ {h : Host}, P h → ∀ seconds, P { h with slept := seconds :: h.slept }

/-- To be written, a trace need not be of a kind that depends on what is in it. -/
theorem Trace.Writable.records {t : Trace} {P : Host → Prop} (h : t.Writable P) :
    t.Records fun _ => P :=
  ⟨h.prompt, h.answer, h.failure, h.sleep⟩

/-- A trace that is switched off writes nothing. -/
theorem Trace.record_of_disabled {t : Trace} (h : t.enabled = false) (parts : List String)
    (content : String) (host : Host) : (t.record parts content).exec host = (.ok (), host) := by
  rw [record, h]
  rfl

theorem Trace.recordOutcome_of_disabled {t : Trace} (h : t.enabled = false) (parts : List String)
    (content : Outcome String) (host : Host) :
    (t.recordOutcome parts content).exec host = (.ok (), host) := by
  rw [recordOutcome, h]
  rfl

/-- A trace that is switched off can be written on any host. -/
theorem Trace.writable_of_disabled {t : Trace} (h : t.enabled = false) :
    t.Writable fun _ => True := by
  constructor
  · intro host _ batch text values _
    refine ⟨host, trivial, ?_⟩
    rw [recordPrompt, exec_bind_of_ok (record_of_disabled h ..), recordOutcome_of_disabled h]
  · intro host _ batch attempt text
    exact ⟨host, trivial, record_of_disabled h ..⟩
  · intro host _ batch attempt text origin
    refine ⟨host, trivial, ?_⟩
    rw [recordFailure, exec_bind_of_ok (record_of_disabled h ..), record_of_disabled h]
  · intro _ _ _
    trivial

/-- The tape can be put in, and this comes of saving it, whatever is on the tapes. -/
def Deck.SavesWith (d : Deck) (tape : Playback) (saved : Outcome Unit) : Prop :=
  ∀ tapes, ((d.load tape).exec tapes).1 = .ok () ∧ ((d.save tape).exec tapes).1 = saved

namespace Service

/-! ## Attempts -/

/-- The answer, if the outcome of an attempt is one that gives an updated file. -/
def accepted? (g : Guesser) (language : String) : Outcome String → Option BatchAnswer
  | .ok answer =>
    let file := Answer.parse g language answer
    if file.updatedFile.isEmpty then none else some ⟨answer, file⟩
  | .error _ => none

/-- What the model says to a prompt that it is asked a number of times. -/
def attempts (session : Store.Session) (prompt : String) (n : Nat) : List (Outcome String) :=
  (List.range n).map fun j =>
    session.dialogue.reply (session.dialogue.prompts.length + j) prompt

/-- How many of the attempts are made: all up to the first acceptable one. -/
def attemptsMade (g : Guesser) (language : String) : List (Outcome String) → Nat
  | [] => 0
  | o :: rest => if (accepted? g language o).isSome then 1 else attemptsMade g language rest + 1

/-- The attempts that are made. -/
def made (g : Guesser) (language : String) (outcomes : List (Outcome String)) :
    List (Outcome String) :=
  outcomes.take (attemptsMade g language outcomes)

theorem made_cons (g : Guesser) (language : String) (o : Outcome String)
    (rest : List (Outcome String)) :
    made g language (o :: rest) =
      o :: if (accepted? g language o).isSome then [] else made g language rest := by
  rw [made, attemptsMade]
  split
  · rfl
  · rfl

/-- The session after a prompt was asked a number of times. -/
def askedTimes (session : Store.Session) (prompt : String) (n : Nat) : Store.Session :=
  { session with
    dialogue.prompts := session.dialogue.prompts ++ List.replicate n prompt }

theorem askedTimes_zero (session : Store.Session) (prompt : String) :
    askedTimes session prompt 0 = session := by
  simp [askedTimes]

theorem askedTimes_succ (session : Store.Session) (prompt : String) (n : Nat) :
    askedTimes (askedTimes session prompt 1) prompt n = askedTimes session prompt (n + 1) := by
  simp [askedTimes, List.replicate_succ]

theorem attempts_succ (session : Store.Session) (prompt : String) (n : Nat) :
    attempts session prompt (n + 1) =
      session.dialogue.reply session.dialogue.prompts.length prompt ::
        attempts (askedTimes session prompt 1) prompt n := by
  rw [attempts, attempts, List.range_succ_eq_map, List.map_cons, List.map_map]
  congr 1
  refine List.map_congr_left fun j _ => ?_
  simp only [askedTimes, Function.comp_apply, List.length_append, List.length_replicate]
  rw [Nat.succ_eq_add_one, Nat.add_comm j 1, Nat.add_assoc]

/-- Without an acceptable attempt all are made. -/
theorem attemptsMade_of_none {g : Guesser} {language : String} {outcomes : List (Outcome String)}
    (h : outcomes.findSome? (accepted? g language) = none) :
    attemptsMade g language outcomes = outcomes.length := by
  induction outcomes with
  | nil => rfl
  | cons o rest ih =>
    rw [List.findSome?_eq_none_iff] at h
    have hfirst := h o List.mem_cons_self
    rw [attemptsMade, hfirst, ih (List.findSome?_eq_none_iff.mpr fun x hx =>
      h x (List.mem_cons_of_mem _ hx))]
    rfl

/-- What comes of a batch: without an acceptable answer the file cannot be migrated. -/
def orMigrationFailed {α : Type} : Option α → Outcome α
  | some x => .ok x
  | none => .error .migrationFailed

theorem onHost_exec {α : Type} (a : Action Host α) (s : Service) :
    (onHost a).exec s = ((a.exec s.host).1, { s with host := (a.exec s.host).2 }) := rfl

/-- The failure of an attempt that gives no acceptable answer: that of the model, or that an updated
file is missing. -/
def failureOf? (g : Guesser) (language fileName : String) : Outcome String → Option Failure
  | .ok answer =>
    if (Answer.parse g language answer).updatedFile.isEmpty then some (noUpdatedFile fileName)
    else none
  | .error e => some e

theorem failureOf?_eq_none_iff {g : Guesser} {language : String} (fileName : String)
    {o : Outcome String} :
    failureOf? g language fileName o = none ↔ (accepted? g language o).isSome = true := by
  cases o with
  | error e => simp [failureOf?, accepted?]
  | ok answer =>
    rw [failureOf?, accepted?]
    by_cases hempty : (Answer.parse g language answer).updatedFile.isEmpty = true
    · simp [hempty]
    · simp [hempty]

/-- The files of an attempt: the answer if there is one, and the failure if it fails. -/
def attemptFiles (setup : ServiceSetup) (language fileName : String) (batch attempt : Int)
    (o : Outcome String) : List (Names × String) :=
  Trace.answerFiles batch attempt (o.map setup.runtime.shown) ++
    (failureOf? setup.guesser language fileName o).elim [] fun e =>
      Trace.failureFiles batch attempt e.text (setup.runtime.origin e)

/-- The files of the attempts that are made, numbered from the given one. -/
def attemptsFiles (setup : ServiceSetup) (language fileName : String) (batch attempt : Int)
    (outcomes : List (Outcome String)) : List (Names × String) :=
  Trace.numbered (attemptFiles setup language fileName batch) attempt
    (made setup.guesser language outcomes)

/-- Asking once gives the answer if it is acceptable, and fails otherwise. What is left on the host is
what writing the answer down leaves there. -/
theorem askOnce_exec_of_record (setup : ServiceSetup) {trace : Trace} {s : Service}
    {batch attempt : Int} {Q : Outcome String → Host → Prop} (hfailed : ∀ e, Q (.error e) s.host)
    (hrecord : ∀ answer, ∃ host, Q (.ok answer) host ∧
      (trace.recordAnswer batch attempt (setup.runtime.shown answer)).exec s.host = (.ok (), host))
    (fileName language prompt : String) :
    ∃ o host, Q (s.session.dialogue.reply s.session.dialogue.prompts.length prompt) host ∧
      (askOnce setup trace fileName language prompt batch attempt).exec s =
        (o, { s with host, session := askedTimes s.session prompt 1 }) ∧
      o.toOption = accepted? setup.guesser language
        (s.session.dialogue.reply s.session.dialogue.prompts.length prompt) ∧
      ∀ e, o = .error e → failureOf? setup.guesser language fileName
        (s.session.dialogue.reply s.session.dialogue.prompts.length prompt) = some e := by
  have hask : (ask prompt).exec s =
      (s.session.dialogue.reply s.session.dialogue.prompts.length prompt,
        { s with session := askedTimes s.session prompt 1 }) := rfl
  cases hreply : s.session.dialogue.reply s.session.dialogue.prompts.length prompt with
  | error e =>
    -- the model itself has failed: nothing is traced here
    rw [hreply] at hask
    refine ⟨.error e, s.host, hfailed e, ?_, rfl, ?_⟩
    · rw [askOnce, exec_bind_of_error hask]
    · intro e' he
      cases he
      rfl
  | ok answer =>
    rw [hreply] at hask
    obtain ⟨host, hhost, hexec⟩ := hrecord answer
    have htraced : (onHost (trace.recordAnswer batch attempt (setup.runtime.shown answer))).exec
        { s with session := askedTimes s.session prompt 1 } =
          (.ok (), { s with host, session := askedTimes s.session prompt 1 }) := by
      rw [onHost_exec, hexec]
    rw [askOnce, exec_bind_of_ok hask, exec_bind_of_ok htraced, accepted?, failureOf?]
    dsimp only
    split
    · refine ⟨.error (noUpdatedFile fileName), host, hhost, rfl, rfl, ?_⟩
      intro e he
      cases he
      rfl
    · refine ⟨.ok _, host, hhost, rfl, rfl, ?_⟩
      intro e he
      cases he

/-! ### Tapes -/

/-- The action neither looks at the tapes nor changes them. -/
def IgnoresTapes {α : Type} (a : Action Service α) : Prop :=
  ∀ s tapes, a.exec { s with tapes } = ((a.exec s).1, { (a.exec s).2 with tapes })

section IgnoresTapes

variable {α β : Type}

theorem IgnoresTapes.bind {a : Action Service α} {f : α → Action Service β} (ha : IgnoresTapes a)
    (hf : ∀ x, IgnoresTapes (f x)) : IgnoresTapes (a >>= f) := by
  intro s tapes
  rw [exec_bind, exec_bind, ha]
  rcases a.exec s with ⟨o, t⟩
  cases o with
  | error e => rfl
  | ok x => exact hf x t tapes

theorem IgnoresTapes.ofOutcome (o : Outcome α) : IgnoresTapes (Action.ofOutcome o) :=
  fun _ _ => rfl

theorem ignoresTapes_askOnce (setup : ServiceSetup) (trace : Trace)
    (fileName language prompt : String) (batch attempt : Int) :
    IgnoresTapes (askOnce setup trace fileName language prompt batch attempt) := by
  rw [askOnce]
  refine IgnoresTapes.bind (fun _ _ => rfl) fun answer => IgnoresTapes.bind (fun _ _ => rfl) fun _ => ?_
  dsimp only
  split
  · exact fun _ _ => rfl
  · exact fun _ _ => rfl

end IgnoresTapes

theorem onTapes_exec {α : Type} (a : Action FileTree α) (s : Service) :
    (onTapes a).exec s = ((a.exec s.tapes).1, { s with tapes := (a.exec s.tapes).2 }) := rfl

/-- The deck changes the tapes alone. -/
theorem keeps_playing {τ α : Type} {view : Service → τ}
    (hview : ∀ s tapes, view { s with tapes } = view s) {a : Action Service α} (ha : Keeps view a)
    (deck : Deck) (tape : Playback) : Keeps view (playing deck tape a) :=
  Keeps.bind (fun s => hview s _) fun _ => ha.bind fun _ =>
    Keeps.bind (fun s => hview s _) fun _ _ => rfl

/-- Whatever the deck does, the host is as the action leaves it, or as it was if the tape cannot be
put in. -/
theorem playing_host {α : Type} {P : Host → Prop} {a : Action Service α} {s : Service}
    (hs : P s.host) (ha : ∀ tapes, P (a.exec { s with tapes }).2.host) (deck : Deck)
    (tape : Playback) : P ((playing deck tape a).exec s).2.host := by
  rw [playing, exec_bind, onTapes_exec]
  rcases (deck.load tape).exec s.tapes with ⟨loaded, tapes⟩
  cases loaded with
  | error e => exact hs
  | ok _ =>
    have hafter := ha tapes
    dsimp only
    rw [exec_bind]
    rcases hrun : a.exec { s with tapes } with ⟨o, t⟩
    rw [hrun] at hafter
    cases o with
    | error e => exact hafter
    | ok x => exact hafter

/-- With a tape in the deck the same comes of an action as without, if it ignores the tapes. Then the
tape is saved. -/
theorem playing_exec {α : Type} {deck : Deck} {tape : Playback} {saved : Outcome Unit}
    (hdeck : deck.SavesWith tape saved) {a : Action Service α} (ha : IgnoresTapes a) (s : Service) :
    ∃ tapes, (playing deck tape a).exec s =
      ((a.exec s).1.map fun x => (x, saved), { (a.exec s).2 with tapes }) := by
  have hload : (onTapes (deck.load tape)).exec s =
      (.ok (), { s with tapes := ((deck.load tape).exec s.tapes).2 }) := by
    rw [onTapes_exec, (hdeck s.tapes).1]
  generalize ((deck.load tape).exec s.tapes).2 = loaded at hload
  have hexec := ha s loaded
  rw [playing, exec_bind_of_ok hload]
  rcases hrun : a.exec s with ⟨o, t⟩
  rw [hrun] at hexec
  cases o with
  | error e =>
    refine ⟨loaded, ?_⟩
    rw [exec_bind_of_error hexec]
    rfl
  | ok x =>
    have hsave : ((onTapes (deck.save tape)).attempt).exec { t with tapes := loaded } =
        (.ok saved, { t with tapes := ((deck.save tape).exec loaded).2 }) := by
      rw [Action.attempt, exec_ofExec, onTapes_exec, (hdeck loaded).2]
    refine ⟨((deck.save tape).exec loaded).2, ?_⟩
    rw [exec_bind_of_ok hexec, exec_bind_of_ok hsave]
    rfl

/-- An attempt leaves the file as it is, or extended by the answer if that is acceptable. It fails as
the answer does, or as saving the tape does. -/
theorem attemptOnce_exec_of_record (setup : ServiceSetup) {trace : Trace} {r : FileRequest}
    {saved : Outcome Unit}
    (hdeck : setup.runtime.deck.SavesWith (tapeOf setup r.application r.fileName) saved)
    {s : Service} {batch attempt : Int} {Q : Outcome String → Host → Prop}
    (hfailed : ∀ e, Q (.error e) s.host)
    (hrecord : ∀ answer, ∃ host, Q (.ok answer) host ∧
      (trace.recordAnswer batch attempt (setup.runtime.shown answer)).exec s.host = (.ok (), host))
    (language prompt : String) (soFar : UpdatedFile) :
    ∃ host tapes, Q (s.session.dialogue.reply s.session.dialogue.prompts.length prompt) host ∧
      (attemptOnce setup trace r language prompt batch attempt soFar).exec s =
        (.ok ((accepted? setup.guesser language
            (s.session.dialogue.reply s.session.dialogue.prompts.length prompt)).elim soFar
              (extended soFar prompt),
          (failureOf? setup.guesser language r.fileName
            (s.session.dialogue.reply s.session.dialogue.prompts.length prompt)).elim saved .error),
          { s with host, tapes, session := askedTimes s.session prompt 1 }) := by
  obtain ⟨o, host, hhost, hexec, ho, hfailure⟩ :=
    askOnce_exec_of_record setup hfailed hrecord r.fileName language prompt
  obtain ⟨tapes, hplayed⟩ := playing_exec hdeck
    (ignoresTapes_askOnce setup trace r.fileName language prompt batch attempt) s
  rw [hexec] at hplayed
  refine ⟨host, tapes, hhost, ?_⟩
  have hattempt : ((playing setup.runtime.deck (tapeOf setup r.application r.fileName)
      (askOnce setup trace r.fileName language prompt batch attempt)).attempt).exec s =
        (.ok (o.map fun got => (got, saved)),
          { s with host, tapes, session := askedTimes s.session prompt 1 }) := by
    rw [Action.attempt, exec_ofExec, hplayed]
  rw [attemptOnce, exec_bind_of_ok hattempt, ← ho]
  cases o with
  | error e =>
    rw [hfailure e rfl]
    rfl
  | ok got =>
    rw [(failureOf?_eq_none_iff r.fileName).mpr (by rw [← ho]; rfl)]
    rfl

/-- **An answer whose tape cannot be saved stays in the file.** The attempt fails all the same, so
that the model is asked again about a file that has the answer already. -/
theorem attemptOnce_of_unsaved (setup : ServiceSetup) {trace : Trace} {r : FileRequest} {e : Failure}
    (hdeck : setup.runtime.deck.SavesWith (tapeOf setup r.application r.fileName) (.error e))
    {s : Service} {batch attempt : Int} (hrecord : ∀ answer, ∃ host,
      (trace.recordAnswer batch attempt (setup.runtime.shown answer)).exec s.host = (.ok (), host))
    {language prompt : String} {got : BatchAnswer}
    (hgot : accepted? setup.guesser language
      (s.session.dialogue.reply s.session.dialogue.prompts.length prompt) = some got)
    (soFar : UpdatedFile) :
    ((attemptOnce setup trace r language prompt batch attempt soFar).exec s).1 =
      .ok (extended soFar prompt got, .error e) := by
  obtain ⟨host, tapes, -, hexec⟩ := attemptOnce_exec_of_record setup hdeck
    (Q := fun _ _ => True) (fun _ => trivial)
    (fun answer => (hrecord answer).imp fun _ h => ⟨trivial, h⟩) language prompt soFar
  rw [hexec, hgot, (failureOf?_eq_none_iff r.fileName).mpr (by rw [hgot]; rfl)]
  rfl

/-! ### Asking up to a number of times -/

/-- What solving a file relies on besides its trace: its tape can be put in and saved, and one can
wait as long as the pause between attempts is. -/
structure Dependable (setup : ServiceSetup) (r : FileRequest) : Prop where
  tape : setup.runtime.deck.SavesWith (tapeOf setup r.application r.fileName) (.ok ())
  pause : Host.refusedDelay? setup.model.retryDelay = none

section Asking

variable {trace : Trace} {P : (Names → Option String) → Host → Prop} (htrace : trace.Records P)
variable {r : FileRequest} (hdependable : Dependable setup r)

include htrace hdependable in
/-- Asking up to a number of times extends the file by the first acceptable answer among so many
attempts. After it the model is not asked again. The trace gets the files of the attempts that are
made. -/
theorem askUpTo_records {s : Service} (contents : Names → Option String) (hs : P contents s.host)
    (language prompt : String) (batch attempt : Int) (soFar : UpdatedFile) (left : Nat) :
    ∃ host tapes, P (Trace.written contents (attemptsFiles setup language r.fileName batch attempt
        (attempts s.session prompt left))) host ∧
      (askUpTo setup trace r language prompt batch left attempt soFar).exec s =
        ((orMigrationFailed ((attempts s.session prompt left).findSome?
            (accepted? setup.guesser language))).map (extended soFar prompt),
          { s with
            host, tapes
            session := askedTimes s.session prompt (attemptsMade setup.guesser language
              (attempts s.session prompt left)) }) := by
  -- Each attempt leaves a session that was asked once more, so the attempts that are left are the
  -- tail of those counted from the start (`attempts_succ`). One that fails leaves the file so far.
  induction left generalizing s attempt contents with
  | zero =>
    refine ⟨s.host, s.tapes, hs, ?_⟩
    show _ = (_, { s with session := askedTimes s.session prompt 0 })
    rw [askedTimes_zero]
    rfl
  | succ left ih =>
    obtain ⟨host, tapes, hhost, hattempt⟩ := attemptOnce_exec_of_record setup hdependable.tape
      (Q := fun reply host => P (Trace.written contents
        (Trace.answerFiles batch attempt (reply.map setup.runtime.shown))) host)
      (fun _ => hs) (fun answer => htrace.answer hs batch attempt _) language prompt soFar
    rw [askUpTo, exec_bind_of_ok hattempt, attempts_succ, List.findSome?_cons, attemptsMade,
      attemptsFiles, made_cons, Trace.numbered, attemptFiles]
    generalize s.session.dialogue.reply s.session.dialogue.prompts.length prompt = reply at hhost ⊢
    cases hfailure : failureOf? setup.guesser language r.fileName reply with
    | none =>
      obtain ⟨got, hgot⟩ :=
        Option.isSome_iff_exists.mp ((failureOf?_eq_none_iff r.fileName).mp hfailure)
      rw [hgot]
      refine ⟨host, tapes, ?_, rfl⟩
      show P (Trace.written contents (Trace.answerFiles batch attempt _ ++ [] ++ [])) host
      rw [List.append_nil, List.append_nil]
      exact hhost
    | some e =>
      have hnone : accepted? setup.guesser language reply = none := by
        rw [← Option.not_isSome_iff_eq_none, ← failureOf?_eq_none_iff r.fileName, hfailure]
        simp
      -- the failure is traced, and the pause is on the host as well
      obtain ⟨host₁, hhost₁, hrecord⟩ :=
        htrace.failure hhost batch attempt e.text (setup.runtime.origin e)
      have htraced : (onHost (trace.recordFailure batch attempt e.text
          (setup.runtime.origin e))).exec
            { s with host, tapes, session := askedTimes s.session prompt 1 } =
          (.ok (), { s with host := host₁, tapes, session := askedTimes s.session prompt 1 }) := by
        rw [onHost_exec, hrecord]
      have hpause : (onHost (Host.sleep setup.model.retryDelay)).exec
          { s with host := host₁, tapes, session := askedTimes s.session prompt 1 } =
            (.ok (), { s with
              host := { host₁ with slept := setup.model.retryDelay :: host₁.slept }, tapes
              session := askedTimes s.session prompt 1 }) := by
        rw [onHost_exec, Host.sleep, hdependable.pause]
        rfl
      obtain ⟨host₂, tapes₂, hhost₂, hrest⟩ := ih
        (s := { s with
          host := { host₁ with slept := setup.model.retryDelay :: host₁.slept }, tapes
          session := askedTimes s.session prompt 1 }) _
        (htrace.sleep hhost₁ setup.model.retryDelay) (attempt + 1)
      refine ⟨host₂, tapes₂, ?_, ?_⟩
      · rw [hnone, Trace.written_append, Trace.written_append]
        exact hhost₂
      · rw [hnone]
        dsimp only [Option.elim]
        rw [exec_bind_of_ok htraced, exec_bind_of_ok hpause, hrest, askedTimes_succ]
        rfl

include htrace hdependable in
/-- Solving a batch extends the file by the first acceptable answer to the prompt of the batch. The
trace gets the files of the prompt and of the attempts. -/
theorem solveBatch_records (hconsumer : setup.consumer = .ofKinds kinds)
    (hfinder : ∀ q, setup.finder.find q = onSession (look q)) {s : Service}
    (contents : Names → Option String) (hs : P contents s.host)
    {language text : String} {incidents : List ExtendedIncident}
    {soFar : UpdatedFile} {described : List Json} {session : Store.Session}
    (hdescribed : (incidents.mapM (describe setup look r.withExamples)).exec s.session =
      (.ok described, session))
    (htext : prompt setup (batchValues setup.model r.fileName language soFar.contents described) =
      .ok text) (batch : Int) :
    ∃ host queries tapes,
      P (Trace.written contents (Trace.promptFiles batch text
          (batchValues setup.model r.fileName language soFar.contents described) ++
        attemptsFiles setup language r.fileName batch 0
          (attempts session text setup.model.retries.toNat))) host ∧
      (solveBatch setup trace r language batch incidents soFar).exec s =
        ((orMigrationFailed ((attempts session text setup.model.retries.toNat).findSome?
            (accepted? setup.guesser language))).map (extended soFar text),
          { host, queries, tapes
            session := askedTimes session text (attemptsMade setup.guesser language
              (attempts session text setup.model.retries.toNat)) }) := by
  obtain ⟨queries, hdescribe⟩ := WorksOnSession.mapM
    (describeIncident_onSession hconsumer hfinder r.withExamples) incidents s
  rw [hdescribed] at hdescribe
  obtain ⟨host, hhost, hrecord⟩ := htrace.prompt hs batch text
    (batchValues setup.model r.fileName language soFar.contents described) rfl
  have htraced : (onHost (trace.recordPrompt batch text
      (batchValues setup.model r.fileName language soFar.contents described))).exec
        { s with session, queries } = (.ok (), { s with host, session, queries }) := by
    rw [onHost_exec, hrecord]
  obtain ⟨host₁, tapes, hhost₁, hasked⟩ := askUpTo_records htrace hdependable
    (s := { s with host, session, queries }) _ hhost language text batch 0 soFar
    setup.model.retries.toNat
  refine ⟨host₁, queries, tapes, ?_, ?_⟩
  · rw [Trace.written_append]
    exact hhost₁
  · rw [solveBatch, exec_bind_of_ok hdescribe]
    dsimp only
    rw [htext, exec_bind_of_ok (exec_ofOutcome _ _), exec_bind_of_ok htraced, hasked]

end Asking

/-! ### Whatever is in the trace -/

section Writable

variable {trace : Trace} {P : Host → Prop} (htrace : trace.Writable P)
variable {r : FileRequest} (hdependable : Dependable setup r)

include htrace in
/-- Asking once gives the answer if it is acceptable, and fails otherwise. -/
theorem askOnce_exec (setup : ServiceSetup) {s : Service} (hs : P s.host)
    (fileName language prompt : String) (batch attempt : Int) :
    ∃ o host, P host ∧
      (askOnce setup trace fileName language prompt batch attempt).exec s =
        (o, { s with host, session := askedTimes s.session prompt 1 }) ∧
      o.toOption = accepted? setup.guesser language
        (s.session.dialogue.reply s.session.dialogue.prompts.length prompt) := by
  obtain ⟨o, host, hhost, hexec, ho, -⟩ := askOnce_exec_of_record setup (Q := fun _ => P)
    (fun _ => hs) (fun answer => htrace.answer hs batch attempt _) fileName language prompt
  exact ⟨o, host, hhost, hexec, ho⟩

include htrace hdependable in
/-- Solving a batch extends the file by the first acceptable answer to the prompt of the batch. -/
theorem solveBatch_exec (hconsumer : setup.consumer = .ofKinds kinds)
    (hfinder : ∀ q, setup.finder.find q = onSession (look q)) {s : Service} (hs : P s.host)
    {language text : String} {incidents : List ExtendedIncident}
    {soFar : UpdatedFile} {described : List Json} {session : Store.Session}
    (hdescribed : (incidents.mapM (describe setup look r.withExamples)).exec s.session =
      (.ok described, session))
    (htext : prompt setup (batchValues setup.model r.fileName language soFar.contents described) =
      .ok text) (batch : Int) :
    ∃ host queries tapes, P host ∧
      (solveBatch setup trace r language batch incidents soFar).exec s =
        ((orMigrationFailed ((attempts session text setup.model.retries.toNat).findSome?
            (accepted? setup.guesser language))).map (extended soFar text),
          { host, queries, tapes
            session := askedTimes session text (attemptsMade setup.guesser language
              (attempts session text setup.model.retries.toNat)) }) :=
  solveBatch_records htrace.records hdependable hconsumer hfinder (fun _ => none) hs hdescribed htext
    batch

end Writable

end Service
end Remedy
