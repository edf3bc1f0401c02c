import RightLinear.Json.Description
import RightLinear.Layout.Automaton
import RightLinear.Layout.Grammar
import RightLinear.Listing
import RightLinear.Proofs.Graph.Edges
import RightLinear.Proofs.Results

/-! # Writing where there is not room for everything

Each writer makes the calls that its document has pieces, in the same order. A sink that takes a
limited number of bytes refuses the fragment that would pass its limit. However the texts of the
calls are divided into fragments, all of the document is taken if it fits. Otherwise the writer
stops within the first piece whose last byte lies beyond the limit, and reports the part that
this piece is.
-/

namespace RightLinear

open Writer

namespace Document

/-- Writes all pieces in their order. -/
def write : Document → Writer
  | [] => pure ()
  | piece :: later => do
      put piece.part piece.text
      write later

theorem write_nil : write [] = pure () := rfl

theorem write_cons (piece : Piece) (later : Document) :
    write (piece :: later) = (do put piece.part piece.text; write later) := rfl

theorem write_line_cons (part : Part) (text : String) (later : Document) :
    write (.line part text :: later) = (do putLine part text; write later) := rfl

theorem write_singleton (piece : Piece) : write [piece] = put piece.part piece.text :=
  bind_pure_unit

theorem write_append (first second : Document) :
    write (first ++ second) = (do write first; write second) := by
  induction first with
  | nil => exact (pure_bind PUnit.unit fun _ => write second).symm
  | cons piece first induction =>
      rw [List.cons_append, write_cons, write_cons, induction, bind_assoc]

/-- A loop writes the documents of its rounds one after the other. -/
theorem forIn_eq_write {α : Type} (items : List α) (pieces : α → Document)
    {round : α → PUnit → Write Part (ForInStep PUnit)}
    (writes : ∀ item, round item ⟨⟩ = (do write (pieces item); pure (.yield ⟨⟩))) :
    forIn items PUnit.unit round = write (items.flatMap pieces) := by
  induction items with
  | nil => rfl
  | cons item items induction =>
      rw [List.forIn_cons, writes, List.flatMap_cons, write_append, ← induction, bind_assoc]
      rfl

/-- A loop that makes one call in each round writes one line for each item. -/
theorem forIn_eq_write_map {α : Type} (items : List α) (piece : α → Piece)
    {round : α → PUnit → Write Part (ForInStep PUnit)}
    (writes : ∀ item, round item ⟨⟩ =
      (do put (piece item).part (piece item).text; pure (.yield ⟨⟩))) :
    forIn items PUnit.unit round = write (items.map piece) := by
  rw [List.map_eq_flatMap]
  apply forIn_eq_write
  intro item
  rw [writes, write_singleton]

end Document

section Writers

open Document

theorem Grammar.writeListing_eq (grammar : Grammar) :
    grammar.writeListing = grammar.listing.write := by
  simp only [writeListing, listing, List.cons_append, List.nil_append, write_line_cons]
  rw [forIn_eq_write_map grammar.productions.groups (fun group => listingLine group.1 group.2)]
  · simp only [bind_pure_unit]
  · exact fun _ => rfl

theorem Grammar.writeListingOf_eq (grammar : Grammar) (symbol : Symbol) :
    grammar.writeListingOf symbol = (grammar.listingOf symbol).write := by
  unfold writeListingOf listingOf
  cases grammar.productions.find? symbol with
  | none => simp only [write_line_cons, write_nil, bind_pure_unit]
  | some alternatives => simp only [listingLine, write_line_cons, write_nil, bind_pure_unit]

theorem Grammar.writeSource_eq (grammar : Grammar) :
    grammar.writeSource = grammar.source.write := by
  simp only [writeSource, source, List.cons_append, List.nil_append, write_line_cons]
  rw [forIn_eq_write_map grammar.productions.groups sourceLine]
  · simp only [bind_pure_unit]
  · exact fun _ => rfl

theorem Automaton.writeListing_eq (automaton : Automaton) :
    automaton.writeListing = automaton.listing.write := by
  simp only [writeListing, listing, List.cons_append, List.nil_append, write_line_cons]
  rw [forIn_eq_write_map automaton.transitions.groups listingLine]
  · simp only [bind_pure_unit]
  · exact fun _ => rfl

theorem Automaton.joined_transition (source letter target : Symbol) :
    Symbol.joined " " [source, letter, target] = s!"{source} {letter} {target}" := by
  apply String.toList_inj.1
  simp [Symbol.toList_joined, ToString.toString]

theorem Automaton.writeSource_eq (automaton : Automaton) :
    automaton.writeSource = automaton.source.write := by
  simp only [writeSource, source, List.cons_append, List.nil_append, write_line_cons]
  rw [forIn_eq_write automaton.transitions.groups sourceLines]
  · simp only [bind_pure_unit]
  · rintro ⟨⟨source, letter⟩, targets⟩
    simp only [sourceLines, joined_transition]
    rw [forIn_eq_write_map targets.toList fun target =>
      .line (.transition source letter target) s!"{source} {letter} {target}"]
    exact fun _ => rfl

theorem Automaton.writeGraph_eq (automaton : Automaton) :
    automaton.writeGraph = automaton.graph.write := by
  simp only [writeGraph, graph, List.cons_append, List.nil_append, List.append_assoc,
    write_append, write_line_cons, write_nil, bind_pure_unit]
  rw [forIn_eq_write_map automaton.states.toList automaton.nodeLine,
    forIn_eq_write_map automaton.edges edgeLine]
  · exact fun _ => rfl
  · exact fun _ => rfl

theorem Json.write_eq (value : Json) : value.write = value.document.write := by
  simp only [write, document, write_cons, write_nil, bind_pure_unit]
  rfl

end Writers

namespace Sink

variable {sink : Sink} {text first second : String} {fragments : List String} {part : Part}

theorem fits_holding : (sink.holding first).Fits second ↔ sink.Fits (first ++ second) := by
  simp only [Fits, holding, String.utf8ByteSize_append, Nat.add_assoc]

theorem Fits.left (fits : sink.Fits (first ++ second)) : sink.Fits first := by
  intro limit limited
  have bound := fits limit limited
  rw [String.utf8ByteSize_append] at bound
  omega

theorem holding_empty (sink : Sink) : sink.holding "" = sink := by
  simp [holding]

theorem holding_holding (sink : Sink) (first second : String) :
    (sink.holding first).holding second = sink.holding (first ++ second) := by
  simp [holding, String.append_assoc]

theorem pour_of_fits (fits : sink.Fits (String.join fragments)) :
    sink.pour fragments = (sink.holding (String.join fragments), true) := by
  induction fragments generalizing sink with
  | nil => rw [pour, String.join_nil, holding_empty]
  | cons fragment later induction =>
      rw [String.join_cons] at fits
      rw [pour, if_pos fits.left, induction (fits_holding.2 fits), holding_holding,
        String.join_cons]

/-- Of a text that is not taken whole, something is always missing. -/
theorem pour_of_not_fits (room : sink.Fits "") (tooLong : ¬ sink.Fits (String.join fragments)) :
    ∃ written unwritten, String.join fragments = written ++ unwritten ∧ unwritten ≠ "" ∧
      sink.pour fragments = (sink.holding written, false) := by
  induction fragments generalizing sink with
  | nil => exact absurd room tooLong
  | cons fragment later induction =>
      by_cases fits : sink.Fits fragment
      · have roomLater : (sink.holding fragment).Fits "" := by
          rwa [fits_holding, String.append_empty]
        have tooLongLater : ¬ (sink.holding fragment).Fits (String.join later) := by
          rwa [fits_holding, ← String.join_cons]
        obtain ⟨written, unwritten, joined, missing, poured⟩ := induction roomLater tooLongLater
        refine ⟨fragment ++ written, unwritten, ?_, missing, ?_⟩
        · rw [String.join_cons, joined, String.append_assoc]
        · rw [pour, if_pos fits, poured, holding_holding]
      · refine ⟨"", String.join (fragment :: later), String.empty_append.symm, ?_, ?_⟩
        · intro empty
          exact tooLong (empty ▸ room)
        · rw [pour, if_neg fits, holding_empty]

theorem put_of_fits (fits : sink.Fits text) : put part text sink = .ok () (sink.holding text) := by
  have joined := sink.join_fragments part text
  rw [← joined] at fits
  rw [put, pour_of_fits fits, joined]

theorem put_of_not_fits (part : Part) (room : sink.Fits "") (tooLong : ¬ sink.Fits text) :
    ∃ written unwritten, text = written ++ unwritten ∧ unwritten ≠ "" ∧
      put part text sink = .error part (sink.holding written) := by
  have joined := sink.join_fragments part text
  rw [← joined] at tooLong
  obtain ⟨written, unwritten, split, missing, poured⟩ := pour_of_not_fits room tooLong
  exact ⟨written, unwritten, joined.symm.trans split, missing, by rw [put, poured]⟩

theorem write_of_fits {document : Document} (fits : sink.Fits document.text) :
    document.write sink = .ok () (sink.holding document.text) := by
  induction document generalizing sink with
  | nil =>
      rw [Document.text_nil, holding_empty]
      rfl
  | cons piece later induction =>
      rw [Document.text_cons] at fits
      have written := induction (fits_holding.2 fits)
      rw [holding_holding, ← Document.text_cons] at written
      exact (bind_of_ok (put_of_fits fits.left)).trans written

/-- Of a document that does not fit, the pieces before the first that ends beyond the limit are
taken whole, this piece in part, and no other. -/
theorem write_of_not_fits {before : Document} {piece : Piece} (after : Document)
    (within : sink.Fits before.text) (beyond : ¬ sink.Fits (before.text ++ piece.text)) :
    ∃ written unwritten, piece.text = written ++ unwritten ∧ unwritten ≠ "" ∧
      Document.write (before ++ piece :: after) sink =
        .error piece.part (sink.holding (before.text ++ written)) := by
  have ready := write_of_fits within
  have room : (sink.holding before.text).Fits "" := by
    rwa [fits_holding, String.append_empty]
  obtain ⟨written, unwritten, split, missing, stopped⟩ :=
    put_of_not_fits piece.part room (mt fits_holding.1 beyond)
  refine ⟨written, unwritten, split, missing, ?_⟩
  rw [Document.write_append, bind_of_ok ready, Document.write_cons, bind_of_error stopped,
    holding_holding]

end Sink

namespace Document

variable {document : Document} {limit : Nat}

/-- A document is cut at the first piece whose last byte lies beyond a limit: the pieces before
it end within the limit. -/
structure FirstBeyond (document : Document) (limit : Nat) (before : Document) (piece : Piece)
    (after : Document) : Prop where
  split : document = before ++ piece :: after
  within : before.text.utf8ByteSize ≤ limit
  beyond : limit < before.text.utf8ByteSize + piece.text.utf8ByteSize

theorem exists_firstBeyond (long : limit < document.text.utf8ByteSize) :
    ∃ before piece after, document.FirstBeyond limit before piece after := by
  induction document generalizing limit with
  | nil => exact absurd long (Nat.not_lt_zero limit)
  | cons piece later induction =>
      rw [text_cons, String.utf8ByteSize_append] at long
      by_cases fits : piece.text.utf8ByteSize ≤ limit
      · have longLater : limit - piece.text.utf8ByteSize < (text later).utf8ByteSize := by omega
        obtain ⟨before, other, after, split, within, beyond⟩ := induction longLater
        refine ⟨piece :: before, other, after, by rw [split, List.cons_append], ?_, ?_⟩
        · rw [text_cons, String.utf8ByteSize_append]
          omega
        · rw [text_cons, String.utf8ByteSize_append]
          omega
      · exact ⟨[], piece, later, rfl, Nat.zero_le limit, by simpa using fits⟩

end Document

/-- The writers, each with what it writes. -/
inductive Writing
  | grammarListing (grammar : Grammar)
  | grammarListingOf (grammar : Grammar) (symbol : Symbol)
  | grammarSource (grammar : Grammar)
  | grammarJson (grammar : Grammar)
  | automatonListing (automaton : Automaton)
  | automatonSource (automaton : Automaton)
  | automatonGraph (automaton : Automaton)
  | automatonJson (automaton : Automaton)

namespace Writing

def writer : Writing → Writer
  | .grammarListing grammar => grammar.writeListing
  | .grammarListingOf grammar symbol => grammar.writeListingOf symbol
  | .grammarSource grammar => grammar.writeSource
  | .grammarJson grammar => grammar.writeJson
  | .automatonListing automaton => automaton.writeListing
  | .automatonSource automaton => automaton.writeSource
  | .automatonGraph automaton => automaton.writeGraph
  | .automatonJson automaton => automaton.writeJson

def document : Writing → Document
  | .grammarListing grammar => grammar.listing
  | .grammarListingOf grammar symbol => grammar.listingOf symbol
  | .grammarSource grammar => grammar.source
  | .grammarJson grammar => grammar.json
  | .automatonListing automaton => automaton.listing
  | .automatonSource automaton => automaton.source
  | .automatonGraph automaton => automaton.graph
  | .automatonJson automaton => automaton.json

/-- The parts of a document in the order in which they are written. -/
def parts : Writing → List Part
  | .grammarListing grammar =>
      [.nonTerminals, .terminals, .start, .productionsHeader] ++
        grammar.productions.keys.map .productionsOf
  | .grammarListingOf _ symbol => [.productionsHeader, .productionsOf symbol]
  | .grammarSource grammar =>
      [.nonTerminals, .terminals, .start] ++ grammar.productions.keys.map .productionsOf
  | .automatonListing automaton =>
      [.states, .alphabet, .initial, .finals, .transitionsHeader] ++
        automaton.transitions.keys.map fun key => .targets key.1 key.2
  | .automatonSource automaton =>
      [.states, .alphabet, .initial, .finals] ++
        automaton.transitions.pairs.map fun pair => .transition pair.1.1 pair.1.2 pair.2
  | .automatonGraph automaton =>
      [.graphHeader, .graphDirection, .graphStartMarker] ++
        automaton.states.toList.map .graphNode ++ [.graphStartEdge] ++
        automaton.edges.map (fun edge => .graphEdge edge.1.1 edge.1.2) ++ [.graphFooter]
  | .grammarJson _ | .automatonJson _ => [.json, .newline]

theorem writer_eq (writing : Writing) : writing.writer = writing.document.write := by
  cases writing with
  | grammarListing grammar => exact grammar.writeListing_eq
  | grammarListingOf grammar symbol => exact grammar.writeListingOf_eq symbol
  | grammarSource grammar => exact grammar.writeSource_eq
  | grammarJson grammar => exact grammar.toJson.write_eq
  | automatonListing automaton => exact automaton.writeListing_eq
  | automatonSource automaton => exact automaton.writeSource_eq
  | automatonGraph automaton => exact automaton.writeGraph_eq
  | automatonJson automaton => exact automaton.toJson.write_eq

theorem map_part_document (writing : Writing) :
    writing.document.map Piece.part = writing.parts := by
  cases writing with
  | grammarListing grammar =>
      simp [document, parts, Grammar.listing, Grammar.listingLine, Piece.line, Grouping.keys]
  | grammarListingOf grammar symbol =>
      cases found : grammar.productions.find? symbol with
      | none => simp [document, parts, Grammar.listingOf, found, Piece.line]
      | some alternatives =>
          simp [document, parts, Grammar.listingOf, found, Grammar.listingLine, Piece.line]
  | grammarSource grammar =>
      simp [document, parts, Grammar.source, Grammar.sourceLine, Piece.line, Grouping.keys]
  | automatonListing automaton =>
      simp [document, parts, Automaton.listing, Automaton.listingLine, Piece.line, Grouping.keys]
  | automatonSource automaton =>
      simp [document, parts, Automaton.source, Automaton.sourceLines, Piece.line, Grouping.pairs,
        List.map_flatMap, Function.comp_def]
  | automatonGraph automaton =>
      simp [document, parts, Automaton.graph, Automaton.nodeLine, Automaton.edgeLine, Piece.line,
        Function.comp_def]
  | grammarJson grammar | automatonJson automaton => rfl

/-- No two pieces of a document are the same part of it. -/
theorem nodup_parts (writing : Writing) : writing.parts.Nodup := by
  cases writing with
  | grammarListing grammar | grammarSource grammar =>
      have lines : (grammar.productions.keys.map Part.productionsOf).Nodup :=
        grammar.productions.nodup_keys.map fun _ _ same => Part.productionsOf.inj same
      simp [parts, lines]
  | grammarListingOf _ symbol => simp [parts]
  | automatonListing automaton =>
      have lines : (automaton.transitions.keys.map fun key => Part.targets key.1 key.2).Nodup :=
        automaton.transitions.nodup_keys.map fun _ _ same =>
          Prod.ext (Part.targets.inj same).1 (Part.targets.inj same).2
      simp [parts, lines]
  | automatonSource automaton =>
      have lines : (automaton.transitions.pairs.map fun pair =>
          Part.transition pair.1.1 pair.1.2 pair.2).Nodup := by
        apply automaton.transitions.nodup_pairs.map
        intro first second same
        obtain ⟨sources, letters, targets⟩ := Part.transition.inj same
        exact Prod.ext (Prod.ext sources letters) targets
      simp [parts, lines]
  | automatonGraph automaton =>
      have nodes : (automaton.states.toList.map Part.graphNode).Nodup :=
        automaton.states.nodup.map fun _ _ same => Part.graphNode.inj same
      have lines : (automaton.edges.map fun edge => Part.graphEdge edge.1.1 edge.1.2).Nodup := by
        have ends : ((automaton.edges.map Prod.fst).map fun ends =>
            Part.graphEdge ends.1 ends.2).Nodup :=
          automaton.nodup_ends.map fun _ _ same =>
            Prod.ext (Part.graphEdge.inj same).1 (Part.graphEdge.inj same).2
        rwa [List.map_map] at ends
      simp only [parts, List.nodup_append, List.mem_append, List.mem_map]
      grind
  | grammarJson _ | automatonJson _ => simp [parts]

/-- Into an empty sink with a limit, a document that fits is written whole. Of another one, all
that comes before the first piece that ends beyond the limit is written, of this piece not all,
and nothing after it; the writer stops with the part that this piece is. The writer makes one call
for each piece, and no other piece is the same part of the document. -/
theorem stops_within_first_beyond (writing : Writing) {sink : Sink} {limit : Nat}
    (limited : sink.limit = some limit) (fresh : sink.held = "") :
    ((∃ filled, writing.writer sink = .ok () filled) ↔
        writing.document.text.utf8ByteSize ≤ limit) ∧
      (∀ filled, writing.writer sink = .ok () filled → filled.held = writing.document.text) ∧
      (limit < writing.document.text.utf8ByteSize →
        ∃ before piece after written unwritten filled,
          writing.document.FirstBeyond limit before piece after ∧
            piece.text = written ++ unwritten ∧ unwritten ≠ "" ∧
            writing.writer sink = .error piece.part filled ∧
            filled.held = before.text ++ written) ∧
      writing.writer = writing.document.write ∧
      writing.document.map Piece.part = writing.parts ∧ writing.parts.Nodup := by
  have fits_iff (text : String) : sink.Fits text ↔ text.utf8ByteSize ≤ limit := by
    simp [Sink.Fits, limited, fresh]
  have held_holding (text : String) : (sink.holding text).held = text := by
    simp [Sink.holding, fresh]
  have whole (fits : writing.document.text.utf8ByteSize ≤ limit) :
      writing.writer sink = .ok () (sink.holding writing.document.text) := by
    rw [writing.writer_eq]
    exact Sink.write_of_fits ((fits_iff _).2 fits)
  have partly (long : limit < writing.document.text.utf8ByteSize) :
      ∃ before piece after written unwritten filled,
        writing.document.FirstBeyond limit before piece after ∧
          piece.text = written ++ unwritten ∧ unwritten ≠ "" ∧
          writing.writer sink = .error piece.part filled ∧
          filled.held = before.text ++ written := by
    obtain ⟨before, piece, after, cut⟩ := Document.exists_firstBeyond long
    have beyond : ¬ sink.Fits (before.text ++ piece.text) := by
      rw [fits_iff, String.utf8ByteSize_append]
      exact Nat.not_le.2 cut.beyond
    obtain ⟨written, unwritten, split, missing, stopped⟩ :=
      Sink.write_of_not_fits after ((fits_iff _).2 cut.within) beyond
    rw [← cut.split, ← writing.writer_eq] at stopped
    exact ⟨before, piece, after, written, unwritten, _, cut, split, missing, stopped,
      held_holding _⟩
  refine ⟨⟨?_, fun fits => ⟨_, whole fits⟩⟩, ?_, partly, writing.writer_eq,
    writing.map_part_document, writing.nodup_parts⟩
  · rintro ⟨filled, succeeded⟩
    by_contra long
    obtain ⟨_, _, _, _, _, _, _, _, _, stopped, _⟩ := partly (Nat.lt_of_not_le long)
    exact nomatch stopped.symm.trans succeeded
  · intro filled succeeded
    by_cases fits : writing.document.text.utf8ByteSize ≤ limit
    · have same := (whole fits).symm.trans succeeded
      cases same
      exact held_holding _
    · obtain ⟨_, _, _, _, _, _, _, _, _, stopped, _⟩ := partly (Nat.lt_of_not_le fits)
      exact nomatch stopped.symm.trans succeeded

/-- An automaton with a name of one letter and two bytes. -/
def accented : Automaton := .ofLists [⟨"é"⟩, ⟨"p"⟩] [⟨"a"⟩] [((⟨"é"⟩, ⟨"a"⟩), [⟨"p"⟩])] ⟨"é"⟩ []

/-- A sink to which every text comes one character at a time. -/
def narrow (limit : Nat) : Sink where
  limit := some limit
  fragments _ text := text.toList.map String.singleton
  join_fragments _ text := by
    apply String.toList_inj.1
    simp [String.toList_join, List.flatMap_map]
  held := ""

theorem accented_stops :
    (automatonSource accented).document.text = "é p\na\né\n\né a p\n" ∧
      (automatonSource accented).document.text.utf8ByteSize = 18 ∧
      (∃ filled, accented.writeSource (narrow 18) = .ok () filled ∧
        filled.held = "é p\na\né\n\né a p\n") ∧
      ∃ before piece after filled,
        (automatonSource accented).document.FirstBeyond 13 before piece after ∧
          accented.writeSource (narrow 13) = .error piece.part filled ∧
          filled.held = "é p\na\né\n\né" ∧
          piece.part.report = ⟨.system, ["Failed to write transition é a p", "limit reached"]⟩ := by
  have size : (automatonSource accented).document.text.utf8ByteSize = 18 := by decide
  have limited (limit : Nat) : (narrow limit).limit = some limit := rfl
  have fresh (limit : Nat) : (narrow limit).held = "" := rfl
  have atEnd := stops_within_first_beyond (automatonSource accented) (limited 18) (fresh 18)
  have within := stops_within_first_beyond (automatonSource accented) (limited 13) (fresh 13)
  refine ⟨by rfl, size, ?_, ?_⟩
  · obtain ⟨filled, succeeded⟩ := atEnd.1.2 (Nat.le_of_eq size)
    exact ⟨filled, succeeded, atEnd.2.1 filled succeeded⟩
  · obtain ⟨before, piece, after, _, _, filled, cut, _, _, stopped, _⟩ :=
      within.2.2.1 (by rw [size]; decide)
    -- The third byte of the last line would be the fourteenth of all.
    have computed : accented.writeSource (narrow 13) =
        .error (.transition ⟨"é"⟩ ⟨"a"⟩ ⟨"p"⟩) ((narrow 13).holding "é p\na\né\n\né") := by rfl
    obtain ⟨part, rfl⟩ := EStateM.Result.error.inj (stopped.symm.trans computed)
    exact ⟨before, piece, after, _, cut, stopped, by rfl, by rw [part]; rfl⟩

end Writing
end RightLinear
