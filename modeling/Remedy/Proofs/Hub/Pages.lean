import Remedy.Hub.Import
import Remedy.Proofs.Action
import Remedy.Proofs.Number.Decimal

/-!
# Lists that come in pages

A hub gives a long list in pages, each asked for by the number of items that were given before. How
long a page is, the hub decides anew each time; it may only not give an empty page before the end.
Going through the pages then ends, because each page but the last brings the walk closer to the end
of the list, and it ends with the whole list, because a page begins where the one before has ended.

Main results:

* `pagesFrom_succ`: the number of items is another one than before the page exactly if the page is not
  empty, so that the first empty page is the last.
* `pagesFrom_pages`: what is made of the items of all pages is what is made of the list.
* `pages_yield_list`: the pages of a hub give its list, item by item and in order, and the walk ends.
-/

namespace Remedy.Hub

open Remedy.Action

/-! ## Going through pages -/

section Paginate

variable {σ : Type} {page : Nat → Action σ Json} {asked : σ → Nat → σ} {items : List Json}

/-- Counting the items of a page changes nothing about what is made of them. -/
theorem foldlM_counting {α : Type} (take : α → Json → Action σ α) (part : List Json) (got : α)
    (current : Nat) :
    part.foldlM (counting take) (got, current) =
      (·, current + part.length) <$> part.foldlM take got := by
  induction part generalizing got current with
  | nil => simp
  | cons v part ih => simp [counting, ih, Nat.add_assoc, Nat.add_comm 1]

theorem pagesFrom_of_eq {α : Type} (take : α → Json → Action σ α) (fuel current : Nat) (got : α) :
    pagesFrom page take fuel (some current) current got = pure got := by
  cases fuel with
  | zero => rfl
  | succ fuel => rw [pagesFrom, if_pos rfl]

/-- One page: the two numbers of items differ after it, and the walk goes on, unless the page is
empty. -/
theorem pagesFrom_succ {α : Type} (take : α → Json → Action σ α) {previous : Option Nat} {current : Nat}
    (h : previous ≠ some current) (fuel : Nat) (got : α) :
    pagesFrom page take (fuel + 1) previous current got = (do
      let part ← ofOutcome (← page current).each
      let next ← part.foldlM take got
      if part.isEmpty then return next
      else pagesFrom page take fuel (some current) (current + part.length) next) := by
  rw [pagesFrom, if_neg h]
  refine bind_congr fun v => bind_congr fun part => ?_
  rw [foldlM_counting, bind_map_left]
  refine bind_congr fun next => ?_
  cases part with
  | nil => exact pagesFrom_of_eq take fuel current next
  | cons v part => rfl

/-- The pages are those of a list: at each place some of the items that follow there, and at least one
as long as there is one. To ask for a page changes the state in the given way. -/
def PagesOf (page : Nat → Action σ Json) (asked : σ → Nat → σ) (items : List Json) : Prop :=
  ∀ s offset, ∃ part, part <+: items.drop offset ∧ (offset < items.length → part ≠ []) ∧
    (page offset).exec s = (.ok (.arr part), asked s offset)

/-- Items are taken without a look at the state. -/
def taking {α : Type} (take : α → Json → Outcome α) (got : α) (v : Json) : Action σ α :=
  ofOutcome (take got v)

theorem exec_taking {α : Type} (take : α → Json → Outcome α) (got : α) (v : Json) (s : σ) :
    (taking take got v).exec s = (take got v, s) := rfl

theorem exec_foldlM_taking {α : Type} (take : α → Json → Outcome α) (part : List Json) (got : α)
    (s : σ) : (part.foldlM (taking take) got).exec s = (part.foldlM take got, s) := by
  induction part generalizing got with
  | nil => rfl
  | cons v part ih =>
    rw [List.foldlM_cons, List.foldlM_cons, exec_bind, exec_taking]
    cases take got v with
    | error e => rfl
    | ok next => exact ih next

/-- One page whose items can be taken: unless it is empty, the next page is asked for. -/
theorem pagesFrom_succ_of_ok {α : Type} {take : α → Json → Outcome α} {previous : Option Nat}
    {offset : Nat} {s s' : σ} {part : List Json} {got next : α} (hprevious : previous ≠ some offset)
    (hpage : (page offset).exec s = (.ok (.arr part), s'))
    (hfold : part.foldlM take got = .ok next) (fuel : Nat) :
    (pagesFrom page (taking take) (fuel + 1) previous offset got).exec s =
      if part.isEmpty then (.ok next, s')
      else (pagesFrom page (taking take) fuel (some offset) (offset + part.length) next).exec s' := by
  have htaken : (part.foldlM (taking take) got).exec s' = (.ok next, s') := by
    rw [exec_foldlM_taking, hfold]
  rw [pagesFrom_succ _ hprevious, exec_bind_of_ok hpage]
  refine (exec_bind_of_ok htaken _).trans ?_
  split
  · rfl
  · rfl

/-- One page with an item that cannot be taken: the walk fails as taking it does. -/
theorem pagesFrom_succ_of_error {α : Type} {take : α → Json → Outcome α} {previous : Option Nat}
    {offset : Nat} {s s' : σ} {part : List Json} {got : α} {e : Failure}
    (hprevious : previous ≠ some offset) (hpage : (page offset).exec s = (.ok (.arr part), s'))
    (hfold : part.foldlM take got = .error e) (fuel : Nat) :
    (pagesFrom page (taking take) (fuel + 1) previous offset got).exec s = (.error e, s') := by
  have htaken : (part.foldlM (taking take) got).exec s' = (.error e, s') := by
    rw [exec_foldlM_taking, hfold]
  rw [pagesFrom_succ _ hprevious, exec_bind_of_ok hpage]
  exact exec_bind_of_error htaken _

/-- What is left of a list behind one of its pages. -/
theorem drop_append_of_page {part : List Json} {offset : Nat} (hpart : part <+: items.drop offset) :
    part ++ items.drop (offset + part.length) = items.drop offset := by
  obtain ⟨rest, hrest⟩ := hpart
  rw [← List.drop_drop, ← hrest, List.drop_left]

/-- Places that go up from one place to another. -/
structure Ascending (first last : Nat) (offsets : List Nat) : Prop where
  head : offsets.head? = some first
  last : offsets.getLast? = some last
  sorted : offsets.Pairwise (· < ·)

theorem Ascending.single (offset : Nat) : Ascending offset offset [offset] :=
  ⟨rfl, rfl, List.pairwise_singleton _ _⟩

theorem Ascending.cons {offset first last : Nat} {offsets : List Nat}
    (h : Ascending first last offsets) (hlt : offset < first) :
    Ascending offset last (offset :: offsets) := by
  obtain ⟨hhead, hlast, hsorted⟩ := h
  cases offsets with
  | nil => cases hhead
  | cons o later =>
    obtain rfl : o = first := Option.some.inj hhead
    refine ⟨rfl, by rw [List.getLast?_cons_cons, hlast], List.pairwise_cons.mpr ⟨?_, hsorted⟩⟩
    intro p hp
    rcases List.mem_cons.mp hp with rfl | hp
    · exact hlt
    · exact hlt.trans (List.rel_of_pairwise_cons hsorted hp)

/-- **What is made of all pages is what is made of the list.** The places at which pages are asked
for go up to the end of the list, where the walk ends by itself. They do not depend on what is made
of the items, nor on the number of pages that are allowed, if that is greater than the number of
items. -/
theorem pagesFrom_pages (h : PagesOf page asked items) {offset : Nat}
    (hoffset : offset ≤ items.length) (s : σ) :
    ∃ offsets : List Nat, Ascending offset items.length offsets ∧
      ∀ (α : Type) (take : α → Json → Outcome α) (got : α) (fuel : Nat) (previous : Option Nat),
        items.length - offset < fuel → previous ≠ some offset →
        ((pagesFrom page (taking take) fuel previous offset got).exec s).1 =
            (items.drop offset).foldlM take got ∧
          ∀ last, (items.drop offset).foldlM take got = .ok last →
            ((pagesFrom page (taking take) fuel previous offset got).exec s).2 =
              offsets.foldl asked s := by
  -- the induction is on the number of items that are still to come
  induction hleft : items.length - offset using Nat.strong_induction_on generalizing offset s with
  | _ left ih =>
    obtain ⟨part, hpart, hnonempty, hpage⟩ := h s offset
    have hrest := drop_append_of_page hpart
    rcases Nat.lt_or_ge offset items.length with hlt | hge
    · -- the page has items: the rest of the list begins after them
      have hne : part ≠ [] := hnonempty hlt
      have hpos : 0 < part.length := List.length_pos_iff.mpr hne
      have hwithin := hpart.length_le
      rw [List.length_drop] at hwithin
      obtain ⟨offsets, hoffsets, hmade⟩ := ih (items.length - (offset + part.length)) (by omega)
        (by omega) (asked s offset) rfl
      refine ⟨offset :: offsets, hoffsets.cons (by omega), ?_⟩
      intro α take got fuel previous hfuel hprevious
      obtain ⟨fuel, rfl⟩ : ∃ k, fuel = k + 1 := ⟨fuel - 1, by omega⟩
      rw [← hrest, List.foldlM_append]
      cases hfold : part.foldlM take got with
      | error e =>
        rw [pagesFrom_succ_of_error hprevious hpage hfold]
        refine ⟨rfl, ?_⟩
        intro last hmade'
        cases hmade'
      | ok next =>
        have hempty : part.isEmpty = false := List.isEmpty_eq_false_iff.mpr hne
        have hdiffers : some offset ≠ some (offset + part.length) := by
          rw [ne_eq, Option.some.injEq]
          omega
        rw [pagesFrom_succ_of_ok hprevious hpage hfold, hempty]
        exact hmade α take next fuel (some offset) (by omega) hdiffers
    · -- nothing is left, so that the page is empty and the last one
      have hend : offset = items.length := by omega
      have hnil : items.drop offset = [] := by
        rw [hend, List.drop_length]
      obtain rfl : part = [] := List.prefix_nil.mp (hnil ▸ hpart)
      refine ⟨[offset], hend ▸ Ascending.single offset, ?_⟩
      intro α take got fuel previous hfuel hprevious
      obtain ⟨fuel, rfl⟩ : ∃ k, fuel = k + 1 := ⟨fuel - 1, by omega⟩
      have hfold : ([] : List Json).foldlM take got = .ok got := rfl
      rw [pagesFrom_succ_of_ok hprevious hpage hfold, hnil]
      exact ⟨rfl, fun _ _ => rfl⟩

end Paginate

/-! ## The pages of a hub -/

/-- The request for the page at a place of a list. -/
def pageRequest (hub : Connection) (path : String) (offset : Nat) : Request :=
  .get (hub.address ++ path) (some ("offset", Decimal.natural offset)) hub.timeout hub.verify

/-- The hub gives a list page by page. Its answer may depend on all that it was asked before; as long
as items are left it gives at least one of them. -/
def GivesPages (hub : Connection) (path : String) (items : List Json) : Prop :=
  ∀ past offset, ∃ status text part, status < 400 ∧ part <+: items.drop offset ∧
    (offset < items.length → part ≠ []) ∧
    hub.server.answer past (pageRequest hub path offset) = .ok { status, body := .arr part, text }

/-- The page at a place of a list. -/
def pageAt (setup : ImportSetup) (path : String) (offset : Nat) : Importing Json :=
  fetch setup path (some ("offset", Decimal.natural offset))

/-- The importer after it has asked for the pages at some places. -/
def askedPages (setup : ImportSetup) (path : String) (s : Importer) (offsets : List Nat) : Importer :=
  { s with requests := s.requests ++ offsets.map (pageRequest setup.hub path) }

theorem foldl_askedPages (setup : ImportSetup) (path : String) (offsets : List Nat) (s : Importer) :
    offsets.foldl (fun s offset => askedPages setup path s [offset]) s =
      askedPages setup path s offsets := by
  induction offsets generalizing s with
  | nil => simp [askedPages]
  | cons o offsets ih =>
    rw [List.foldl_cons, ih]
    simp [askedPages]

theorem GivesPages.pagesOf {setup : ImportSetup} {path : String} {items : List Json}
    (h : GivesPages setup.hub path items) :
    PagesOf (pageAt setup path) (fun s offset => askedPages setup path s [offset]) items := by
  intro s offset
  obtain ⟨status, text, part, hstatus, hpart, hnonempty, hanswer⟩ := h s.requests offset
  refine ⟨part, hpart, hnonempty, ?_⟩
  have hsend : (send setup.hub.server (pageRequest setup.hub path offset)).exec s.requests =
      (.ok { status, body := .arr part, text },
        s.requests ++ [pageRequest setup.hub path offset]) := by
    rw [send, exec_ofExec, hanswer]
  have hfetch : (setup.hub.fetch path (some ("offset", Decimal.natural offset))).exec s.requests =
      (.ok (.arr part), s.requests ++ [pageRequest setup.hub path offset]) := by
    rw [Connection.fetch]
    refine (exec_bind_of_ok hsend _).trans ?_
    dsimp only
    rw [if_neg (by omega)]
    rfl
  rw [pageAt, fetch, onRequests, Action.onPart, exec_ofExec, hfetch]
  rfl

/-- Collects items. -/
def collecting (got : List Json) (v : Json) : Outcome (List Json) :=
  .ok (got ++ [v])

theorem foldlM_collecting (items got : List Json) :
    items.foldlM collecting got = .ok (got ++ items) := by
  induction items generalizing got with
  | nil => rw [List.append_nil]; rfl
  | cons v items ih =>
    rw [List.foldlM_cons]
    show items.foldlM collecting (got ++ [v]) = _
    rw [ih, List.append_assoc]
    rfl

/-- What an item adds to the data of a report. -/
def addingIssue (application : String) (data : Fields) (v : Json) : Outcome Fields :=
  (readObject Issue.decode v).map (addIssue application data)

/-- The data of a report is made of the pages of its issues. -/
theorem reportData_eq (setup : ImportSetup) (application : String) (analysis : Int) :
    reportData setup application analysis =
      paginate (pageAt setup ("/analyses/" ++ Decimal.int analysis ++ "/issues"))
        (taking (addingIssue application)) setup.pageLimit [] := by
  have htake : (fun data v => do
      return addIssue application data (← Action.ofOutcome (readObject Issue.decode v)) :
        Fields → Json → Importing Fields) = taking (addingIssue application) := by
    funext data v
    rw [taking, addingIssue]
    cases readObject Issue.decode v with
    | error e => rfl
    | ok i => rfl
  rw [reportData, htake]
  rfl

/-- **The pages of a hub give its list.** Whatever the lengths of the pages are, and however they
change from request to request, going through the pages

* ends: pages are asked for at places that go up from the beginning of the list to its end, and no
  further, however many pages are allowed;
* gives the items of the list, each once and in order;
* makes of the items, as they come, what is made of the list, and fails where that fails; so the
  data of a report is that of all issues of its analysis. -/
theorem pages_yield_list {setup : ImportSetup} {path : String} {items : List Json}
    (h : GivesPages setup.hub path items) (s : Importer) :
    ∃ offsets : List Nat, offsets.head? = some 0 ∧ offsets.getLast? = some items.length ∧
      offsets.Pairwise (· < ·) ∧
      (∀ limit, items.length < limit →
        (paginate (pageAt setup path) (taking collecting) limit []).exec s =
            (.ok items, askedPages setup path s offsets) ∧
          ∀ (α : Type) (take : α → Json → Outcome α) (got : α),
            ((paginate (pageAt setup path) (taking take) limit got).exec s).1 =
              items.foldlM take got) ∧
      ∀ application analysis, path = "/analyses/" ++ Decimal.int analysis ++ "/issues" →
        items.length < setup.pageLimit →
        ((reportData setup application analysis).exec s).1 =
          items.foldlM (addingIssue application) [] := by
  obtain ⟨offsets, hoffsets, hmade⟩ := pagesFrom_pages h.pagesOf (Nat.zero_le _) s
  refine ⟨offsets, hoffsets.head, hoffsets.last, hoffsets.sorted, ?_, ?_⟩
  · intro limit hlimit
    have hnone : (none : Option Nat) ≠ some 0 := by decide
    refine ⟨?_, fun α take got => (hmade α take got limit none hlimit hnone).1⟩
    obtain ⟨hitems, hstate⟩ := hmade _ collecting [] limit none hlimit hnone
    have hall : (items.drop 0).foldlM collecting [] = .ok items := by
      rw [List.drop_zero, foldlM_collecting, List.nil_append]
    refine Prod.ext (hitems.trans hall) ?_
    rw [paginate, hstate items hall, foldl_askedPages]
  · rintro application analysis rfl hlimit
    rw [reportData_eq]
    exact (hmade _ (addingIssue application) [] setup.pageLimit none hlimit (by decide)).1

/-! ### An example -/

/-- A hub with a list. The more it was asked before, the longer its pages are. -/
def growingHub (items : List Json) : ImportSetup where
  hub := {
    address := "HUB"
    server := ⟨fun past r =>
      let place := (List.range items.length).find? fun offset =>
        r = .get "HUB/items" (some ("offset", Decimal.natural offset)) 60 true
      .ok { status := 200, body := .arr (place.elim [] fun offset =>
        (items.drop offset).take (past.length + 1)) }⟩ }
  directory := "/apps"
  pageLimit := 10

theorem growingHub_givesPages (items : List Json) :
    GivesPages (growingHub items).hub "/items" items := by
  intro past offset
  -- a request names its place, because different numbers have different texts
  have hsame : ∀ o, pageRequest (growingHub items).hub "/items" offset =
      .get "HUB/items" (some ("offset", Decimal.natural o)) 60 true ↔ o = offset := by
    intro o
    constructor
    · intro heq
      injection heq with _ hcondition
      have htext := (Prod.mk.inj (Option.some.inj hcondition)).2
      exact (Decimal.naturalChars_inj (String.ofList_injective htext)).symm
    · rintro rfl
      rfl
  have hanswer : (growingHub items).hub.server.answer past
      (pageRequest (growingHub items).hub "/items" offset) =
        .ok { status := 200
              body := .arr (((List.range items.length).find? fun o =>
                pageRequest (growingHub items).hub "/items" offset =
                  .get "HUB/items" (some ("offset", Decimal.natural o)) 60 true).elim [] fun o =>
                    (items.drop o).take (past.length + 1)) } := rfl
  cases hplace : (List.range items.length).find? fun o =>
      pageRequest (growingHub items).hub "/items" offset =
        .get "HUB/items" (some ("offset", Decimal.natural o)) 60 true with
  | none =>
    rw [hplace] at hanswer
    refine ⟨200, "", _, by decide, List.nil_prefix, ?_, hanswer⟩
    intro hlt
    have hnot := List.find?_eq_none.mp hplace offset (List.mem_range.mpr hlt)
    exact absurd (decide_eq_true ((hsame offset).mpr rfl)) hnot
  | some o =>
    have hfound := List.find?_some hplace
    have ho : o = offset := (hsame o).mp (of_decide_eq_true hfound)
    rw [hplace, ho] at hanswer
    refine ⟨200, "", _, by decide, List.take_prefix _ _, ?_, hanswer⟩
    intro hlt
    refine List.ne_nil_of_length_pos ?_
    rw [List.length_take, List.length_drop]
    omega

/-- Four items come in pages of one, two and one, and an empty page is the last. -/
theorem pages_yield_four_items :
    let items : List Json := [.int 1, .int 2, .int 2, .int 3]
    GivesPages (growingHub items).hub "/items" items ∧
    ((paginate (pageAt (growingHub items) "/items") (taking collecting) 5 []).exec {}).1 =
      .ok items ∧
    ((paginate (pageAt (growingHub items) "/items") (taking collecting) 5 []).exec {}).2.requests =
      [0, 1, 3, 4].map (pageRequest (growingHub items).hub "/items") := by
  intro items
  have hpages := growingHub_givesPages items
  obtain ⟨offsets, -, -, -, hmade, -⟩ := pages_yield_list hpages {}
  have hrun := (hmade 5 (by decide)).1
  exact ⟨hpages, by rw [hrun], by decide +kernel⟩

end Remedy.Hub
