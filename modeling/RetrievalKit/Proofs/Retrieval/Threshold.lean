import RetrievalKit.Proofs.Numeric.Order
import RetrievalKit.Proofs.Retrieval.Search
import RetrievalKit.Proofs.Surreal.Query
import RetrievalKit.Proofs.Surreal.Sending

/-!
# Retrieval with a threshold

A threshold lies on one side of the scores of near documents: below similarities, above distances.
The search asks the database for the nearest rows first, the store says whether higher scores are
closer, and the retriever compares accordingly; all of them follow the metric.

* `Distance.Near` — the scores that are at least as near as a threshold;
* `Direction`, `Request.Asks` — the order that the text of a request asks for;
* `isPrefix_filter` — of items in an order, those near enough are the first ones;
* `Sifted` — what becomes of rows with a threshold and without;
* `Retriever.sifted_ofStore` — so a threshold changes neither the request nor what is an error, and
  what it keeps are the nearest documents.
-/

namespace RetrievalKit

open Surreal (Session Store Distance scoreOf? hitOf)

/-! ## Nearness -/

/-- A score is at least as near as a threshold. -/
def Surreal.Distance.Near (d : Distance) (t score : Single) : Prop :=
  match d with
  | .cosine => t.value ≤ score.value
  | .euclidean | .manhattan => score.value ≤ t.value

instance (d : Distance) (t score : Single) : Decidable (d.Near t score) :=
  match d with
  | .cosine => inferInstanceAs (Decidable (t.value ≤ score.value))
  | .euclidean | .manhattan => inferInstanceAs (Decidable (score.value ≤ t.value))

/-- The score of a row, rounded to single precision, is at least as near as a threshold. -/
def Surreal.Distance.isNear (d : Distance) (t : Single) (row : Json) : Bool :=
  (scoreOf? row).any fun score => decide (d.Near t (Single.ofDouble score))

/-- A retriever compares as the metric of its store says. -/
theorem isNearEnough_iff (d : Distance) (t score : Single) :
    isNearEnough d.higherIsCloser t score = true ↔ d.Near t score := by
  cases d with
  | cosine => exact Single.le_iff_value_le
  | euclidean => exact Single.le_iff_value_le
  | manhattan => exact Single.le_iff_value_le

theorem isNearEnough_hitOf {d : Distance} {t : Single} {row : Json} {score : Double}
    (h : scoreOf? row = some score) :
    isNearEnough d.higherIsCloser t (hitOf row).2 = d.isNear t row := by
  unfold Distance.isNear hitOf
  rw [h, Option.any_some, Option.getD_some, Bool.eq_iff_iff, isNearEnough_iff, decide_eq_true_iff]

/-! ## Directions -/

/-- An order of scores. -/
inductive Direction where
  | ascending
  | descending
  deriving DecidableEq

namespace Direction

/-- The word for it in a statement. -/
def word : Direction → String
  | .ascending => "ASC"
  | .descending => "DESC"

/-- The first score may stand before the second. -/
def Before (d : Direction) (a b : Double) : Prop :=
  match d with
  | .ascending => a.value ≤ b.value
  | .descending => b.value ≤ a.value

/-- The scores of these rows are in order. -/
def Sorted (d : Direction) (rows : List Json) : Prop :=
  rows.Pairwise fun row row' => ∀ a b, scoreOf? row = some a → scoreOf? row' = some b →
    d.Before a b

end Direction

/-- The text of a request asks for rows in this order of their scores. -/
def Request.Asks (r : Request) (d : Direction) : Prop :=
  ∃ start bindings,
    r.query? = some (start ++ " ORDER BY score " ++ d.word ++ " LIMIT $k;", bindings)

/-- The order that begins with the nearest scores. -/
def Surreal.Distance.nearestFirst : Distance → Direction
  | .cosine => .descending
  | .euclidean | .manhattan => .ascending

/-- A search asks for the nearest rows first. -/
theorem Surreal.asks_callRequest (c : Config) (id : Nat) (vector : Vector32) (k : Nat)
    (filter : Filter) :
    (callRequest c id (.nearest c vector k filter)).Asks c.distance.nearestFirst := by
  have hword : Statement.direction c.distance = c.distance.nearestFirst.word := by
    cases c.distance <;> rfl
  have htext : (Command.nearest c vector k filter).text =
      (Statement.nearest c.distance filter.keys).text := by
    simp [Command.text, Command.nearest, String.join]
  refine ⟨"SELECT id, text, metadata, " ++ c.distance.scoreFunction ++
    "(embedding, $vector) AS score FROM type::table($tb)" ++ Filter.clause filter.keys,
    (Command.nearest c vector k filter).bindings, ?_⟩
  rw [query?_callRequest, ← hword, htext]
  rfl

/-- What is near enough stays so towards the beginning of sorted rows, since rounding keeps the
order of scores. -/
theorem isNear_of_before {d : Distance} {t : Single} {row row' : Json}
    (hscore : scoreOf? row ≠ none)
    (h : ∀ a b, scoreOf? row = some a → scoreOf? row' = some b → d.nearestFirst.Before a b)
    (hnear : d.isNear t row' = true) : d.isNear t row = true := by
  cases ha : scoreOf? row with
  | none => exact absurd ha hscore
  | some a =>
    cases hb : scoreOf? row' with
    | none =>
      unfold Distance.isNear at hnear
      rw [hb] at hnear
      cases hnear
    | some b =>
      have hbefore := h a b ha hb
      unfold Distance.isNear at hnear ⊢
      rw [hb, Option.any_some, decide_eq_true_iff] at hnear
      rw [ha, Option.any_some, decide_eq_true_iff]
      cases d with
      | cosine => exact Int.le_trans hnear (Single.value_ofDouble_le hbefore)
      | euclidean => exact Int.le_trans (Single.value_ofDouble_le hbefore) hnear
      | manhattan => exact Int.le_trans (Single.value_ofDouble_le hbefore) hnear

/-- Of items in an order, those that the order puts before all others are the first ones. -/
theorem isPrefix_filter {α : Type} {p : α → Bool} {xs : List α}
    (h : xs.Pairwise fun x y => p y = true → p x = true) : xs.filter p <+: xs := by
  induction xs with
  | nil => exact List.prefix_refl []
  | cons x xs ih =>
    obtain ⟨hx, hxs⟩ := List.pairwise_cons.mp h
    cases hp : p x with
    | true =>
      rw [List.filter_cons_of_pos hp]
      exact List.cons_prefix_cons.mpr ⟨rfl, ih hxs⟩
    | false =>
      have hnone : xs.filter p = [] := by
        refine List.filter_eq_nil_iff.mpr fun y hy hpy => ?_
        rw [hx y hy hpy] at hp
        cases hp
      rw [List.filter_cons_of_neg (by simp [hp]), hnone]
      exact List.nil_prefix

/-! ## Retrievals -/

/-- What a retriever makes of the same rows without a threshold and with one.  `asked` is the order
that the request asked for. -/
structure Sifted (d : Distance) (t : Single) (asked : Direction) (rows : List Json)
    (plain sifted : Except Error (List Document)) : Prop where
  /-- One row without a score makes a parsing error of all. -/
  parsing : (∃ row ∈ rows, scoreOf? row = none) →
    ∃ text, plain = .error ⟨.parsing, text⟩ ∧ sifted = .error ⟨.parsing, text⟩
  /-- Else there is a document for each row, and the threshold keeps those of near rows. -/
  documents : (∀ row ∈ rows, scoreOf? row ≠ none) →
    plain = .ok (rows.map Store.documentOfRow) ∧
      sifted = .ok ((rows.filter (d.isNear t)).map Store.documentOfRow)
  /-- If the rows are in the order asked for, the first documents are kept. -/
  nearest : asked.Sorted rows → ∀ all some, plain = .ok all → sifted = .ok some → some <+: all

namespace Retriever

variable {σ : Type}

theorem kept_some_map_hitOf {d : Distance} {t : Single} {rows : List Json}
    (h : ∀ row ∈ rows, scoreOf? row ≠ none) :
    kept d.higherIsCloser (some t) (rows.map hitOf) =
      (rows.filter (d.isNear t)).map Store.documentOfRow := by
  have hnear : rows.filter (fun row => isNearEnough d.higherIsCloser t (hitOf row).2) =
      rows.filter (d.isNear t) := by
    refine List.filter_congr fun row hrow => ?_
    obtain ⟨score, hscore⟩ := Option.ne_none_iff_exists'.mp (h row hrow)
    exact isNearEnough_hitOf hscore
  dsimp only [kept]
  rw [List.filter_map, List.map_map, ← hnear]
  rfl

/-- **Rows are sifted.** -/
theorem sifted_rows (d : Distance) (t : Single) (rows : List Json) :
    Sifted d t d.nearestFirst rows
      ((rows.mapM Store.scoredOfRow).map (kept d.higherIsCloser none))
      ((rows.mapM Store.scoredOfRow).map (kept d.higherIsCloser (some t))) := by
  by_cases h : ∀ row ∈ rows, scoreOf? row ≠ none
  · have hplain : (rows.map hitOf).map (·.1) = rows.map Store.documentOfRow := by
      rw [List.map_map]
      rfl
    have hdocuments : ((rows.mapM Store.scoredOfRow).map (kept d.higherIsCloser none) =
        .ok (rows.map Store.documentOfRow)) ∧
        (rows.mapM Store.scoredOfRow).map (kept d.higherIsCloser (some t)) =
          .ok ((rows.filter (d.isNear t)).map Store.documentOfRow) := by
      rw [Surreal.mapM_scoredOfRow h, ← hplain, ← kept_some_map_hitOf h]
      exact ⟨rfl, rfl⟩
    refine ⟨fun ⟨row, hrow, hnone⟩ => absurd hnone (h row hrow), fun _ => hdocuments, ?_⟩
    intro hsorted all some hall hsome
    rw [hdocuments.1] at hall
    rw [hdocuments.2] at hsome
    cases hall
    cases hsome
    refine (isPrefix_filter ?_).map _
    exact hsorted.imp_of_mem fun hrow _ hbefore => isNear_of_before (h _ hrow) hbefore
  · have hnone : ∃ row ∈ rows, scoreOf? row = none := by
      simpa using h
    obtain ⟨text, htext⟩ := Surreal.mapM_scoredOfRow_of_none hnone
    rw [htext]
    exact ⟨fun _ => ⟨text, rfl, rfl⟩, fun hall => absurd hall h, nofun⟩

/-- In a log the search of a retriever is no exchange, or one that asks for the nearest rows
first. -/
theorem run_search_logging (s : Store σ) (e : Embedder σ) (query : String) (wanted standard : Nat)
    (w : Session (Logged σ)) :
    let r := (s.logging.perform e.unlogged.inSession (search query wanted standard)).run w
    (r.2.world.exchanges = w.world.exchanges ∧ ∀ answer, r.1 = .ok answer → answer.hits = []) ∨
      ∃ x, r.2.world.exchanges = w.world.exchanges ++ [x] ∧
        x.request.Asks s.config.distance.nearestFirst ∧
        r.1 = x.outcome >>= Surreal.statementResults >>= fun results =>
          ((Store.rowsOf results).mapM Store.scoredOfRow).map .scored := by
  intro r
  rcases run_search_cases s.logging e.unlogged query wanted standard w with
    ⟨hworld, hnone⟩ | ⟨vector, k, hworld, houtcome⟩
  · refine Or.inl ⟨?_, hnone⟩
    -- Embedding the query is not logged.
    rcases hworld with hsame | hembedded
    · show r.2.world.exchanges = _
      rw [hsame]
    · show r.2.world.exchanges = _
      rw [hembedded]
      rfl
  · exact Or.inr ⟨_, congrArg Logged.exchanges hworld,
      Surreal.asks_callRequest s.config w.nextId vector k .all, houtcome⟩

/-- What a search makes of the results in a reply. -/
theorem map_kept_of_results {x : Exchange} {reply : Reply} {results : List Json}
    (hreply : x.outcome = .ok reply) (hresults : Surreal.statementResults reply = .ok results)
    (higherIsCloser : Bool) (threshold : Option Single) :
    (x.outcome >>= Surreal.statementResults >>= fun results =>
        ((Store.rowsOf results).mapM Store.scoredOfRow).map Surreal.Answer.scored).map
      (fun answer => kept higherIsCloser threshold answer.hits) =
    ((Store.rowsOf results).mapM Store.scoredOfRow).map (kept higherIsCloser threshold) := by
  rw [hreply]
  simp only [bind, Except.bind, hresults]
  cases (Store.rowsOf results).mapM Store.scoredOfRow <;> rfl

/-- **A threshold keeps the nearest documents.**  Over every store, whatever the database replies, a
retriever with a threshold leaves the session as it does without one, so it sends the same request,
and it fails with the same errors.  If no request is made, nothing is found.  Else the request asks
for an order, documents are found only if the reply has results, and their rows are sifted: the
threshold keeps the documents whose score is near enough in the sense of the metric, in order, and
these are the first ones if the rows came in the order asked for.  The log changes nothing. -/
theorem sifted_ofStore (s : Store σ) (e : Embedder σ) (standard wanted : Nat) (query : String)
    (t : Single) (w : Session (Logged σ)) :
    let retrieve := fun threshold => ((ofStore s.logging.toVectorStore e.unlogged.inSession standard
      threshold).retrieve query wanted).run w
    let plain := retrieve none
    let sifted := retrieve (some t)
    (∀ threshold, ((ofStore s.toVectorStore e.inSession standard threshold).retrieve query
        wanted).run w.unlogged = ((retrieve threshold).1, (retrieve threshold).2.unlogged)) ∧
    sifted.2 = plain.2 ∧ (∀ err, sifted.1 = .error err ↔ plain.1 = .error err) ∧
    ((plain.2.world.exchanges = w.world.exchanges ∧
        ∀ found, plain.1 = .ok found → found = [] ∧ sifted.1 = .ok []) ∨
      ∃ x asked, plain.2.world.exchanges = w.world.exchanges ++ [x] ∧ x.request.Asks asked ∧
        (∀ found, plain.1 = .ok found →
          ∃ reply results, x.outcome = .ok reply ∧ Surreal.statementResults reply = .ok results) ∧
        ∀ reply results, x.outcome = .ok reply → Surreal.statementResults reply = .ok results →
          Sifted s.config.distance t asked (Store.rowsOf results) plain.1 sifted.1) := by
  intro retrieve plain sifted
  let found := (s.logging.perform e.unlogged.inSession (search query wanted standard)).run w
  let keep := fun threshold (answer : Surreal.Answer) =>
    kept s.config.distance.higherIsCloser threshold answer.hits
  have hretrieve : ∀ threshold, retrieve threshold = (found.1.map (keep threshold), found.2) :=
    fun threshold => run_ofStore s.logging e.unlogged.inSession standard threshold query wanted w
  have hplain : plain = (found.1.map (keep none), found.2) := hretrieve none
  have hsifted : sifted = (found.1.map (keep (some t)), found.2) := hretrieve (some t)
  refine ⟨fun threshold => ?_, by rw [hplain, hsifted], fun err => ?_, ?_⟩
  · rw [hretrieve, run_ofStore, Surreal.Store.run_perform_unlogged]
  · rw [hplain, hsifted]
    exact map_eq_error_iff.trans map_eq_error_iff.symm
  · rw [hplain, hsifted]
    rcases run_search_logging s e query wanted standard w with
      ⟨hsame, hnone⟩ | ⟨x, hx, hasks, houtcome⟩
    · refine Or.inl ⟨hsame, fun docs hdocs => ?_⟩
      obtain ⟨answer, hanswer, rfl⟩ := map_eq_ok hdocs
      have hfound : found.1 = .ok answer := hanswer
      simp [hfound, keep, kept, hnone answer hanswer, Except.map]
    · have hfound : found.1 = _ := houtcome
      refine Or.inr ⟨x, _, hx, hasks, fun docs hdocs => ?_, fun reply results hreply hresults => ?_⟩
      · obtain ⟨answer, hanswer, -⟩ := map_eq_ok hdocs
        rw [hfound] at hanswer
        obtain ⟨results, hresults, -⟩ := bind_eq_ok hanswer
        obtain ⟨reply, hreply, hresults⟩ := bind_eq_ok hresults
        exact ⟨reply, results, hreply, hresults⟩
      · rw [hfound, map_kept_of_results hreply hresults, map_kept_of_results hreply hresults]
        exact sifted_rows s.config.distance t (Store.rowsOf results)

/-- Of three rows, the nearest first, a threshold that the second one just reaches keeps two. -/
theorem sifted_ofStore_two :
    let c := Surreal.Config.new "http://localhost:8000" "ns" "db" "documents"
    let row := fun (text : String) (score : Int) =>
      Json.obj [("score", .int score), ("text", .str text)]
    let statement := Json.obj
      [("result", .arr [row "a" 2, row "b" 1, row "c" 0]), ("status", .str "OK")]
    let b : Backend Unit :=
      ⟨fun _ => pure ⟨200, .obj [("result", .arr [statement])]⟩, fun _ => pure []⟩
    let e : Embedder Unit := .ofFunction fun _ => []
    ∃ s, Store.ofConfig c b = .ok s ∧
      let retrieve := fun threshold =>
        (((ofStore s.toVectorStore e.inSession 4 threshold).retrieve "q" 0).run (.start ())).1
      (retrieve none).map (List.map (·.content)) = .ok ["a", "b", "c"] ∧
      (retrieve (some (Single.ofNat 1))).map (List.map (·.content)) = .ok ["a", "b"] := by
  intro c row statement b e
  have hvalid : c.validate = .ok () := by decide
  let s : Store Unit := ⟨c, hvalid, b⟩
  let rows := [row "a" 2, row "b" 1, row "c" 0]
  obtain ⟨hunlogged, -, -, hcases⟩ :=
    sifted_ofStore s e 4 0 "q" (Single.ofNat 1) (.start ⟨(), []⟩)
  have hreply : Surreal.statementResults ⟨200, .obj [("result", .arr [statement])]⟩ =
    .ok [.arr rows] := rfl
  refine ⟨s, Surreal.Store.ofConfig_of_valid hvalid b, ?_⟩
  intro retrieve
  rcases hcases with ⟨hnone, -⟩ | ⟨x, asked, hx, -, -, hsifted⟩
  · cases hnone
  · obtain rfl : _ = x := List.singleton_inj.mp hx
    have hscores : ∀ row ∈ rows, scoreOf? row ≠ none := by decide +kernel
    obtain ⟨hplain, hkept⟩ := (hsifted _ _ rfl hreply).documents hscores
    have hretrieve : ∀ threshold, retrieve threshold = _ :=
      fun threshold => congrArg Prod.fst (hunlogged threshold)
    have hcontents : ((rows.filter (c.distance.isNear (Single.ofNat 1))).map
        Store.documentOfRow).map (·.content) = ["a", "b"] := by decide +kernel
    rw [hretrieve, hretrieve]
    constructor
    · rw [hplain]
      rfl
    · rw [hkept]
      exact congrArg Except.ok hcontents

end Retriever

end RetrievalKit
