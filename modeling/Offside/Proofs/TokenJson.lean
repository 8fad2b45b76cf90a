import Offside.Proofs.JsonRecord
import Offside.Token.Json

/-!
# Tokens that come back from JSON

A token is read from the JSON it is written as, whatever the order of the members of its objects.
Since the reader takes documents that differ in this order for the same, it is enough that the one
document that is written is read back.
-/

namespace Offside

set_option autoImplicit false

variable {j j' : Json}

namespace Position

theorem ofJson?_reorder (h : Json.Reorder j j') : ofJson? j = ofJson? j' := by
  apply Json.bind_eq_of_rel _ (Json.allFields?_reorder _ h)
  rintro _ _ (_ | ⟨hline, _ | ⟨hcolumn, _ | ⟨_, _⟩⟩⟩)
  · rfl
  · rfl
  · simp only [Option.bind_eq_bind, Json.int64?_reorder hline, Json.int64?_reorder hcolumn]
  · rfl

def Bounded (p : Position) : Prop :=
  (Text.int64Min ≤ p.line ∧ p.line ≤ Text.int64Max) ∧
    Text.int64Min ≤ p.column ∧ p.column ≤ Text.int64Max

theorem proper_toJson (p : Position) : p.toJson.Proper := by
  apply Json.proper_struct
  rintro m (_ | ⟨_, _ | ⟨_, ⟨⟩⟩⟩)
  · exact .number (Json.numeral_int p.line)
  · exact .number (Json.numeral_int p.column)

theorem ofJson?_toJson {p : Position} (h : p.Bounded) : ofJson? p.toJson = some p := by
  have hfields : Document.allFields? ["line", "column"] p.toJson =
      some [.int p.line, .int p.column] := Json.allFields?_struct (by simp)
  rw [ofJson?, hfields]
  simp [Json.int64?_int h.1, Json.int64?_int h.2]

end Position

namespace Span

theorem ofJson?_reorder (h : Json.Reorder j j') : ofJson? j = ofJson? j' := by
  apply Json.bind_eq_of_rel _ (Json.allFields?_reorder _ h)
  rintro _ _ (_ | ⟨hstart, _ | ⟨hstop, _ | ⟨_, _⟩⟩⟩)
  · rfl
  · rfl
  · simp only [Option.bind_eq_bind, Position.ofJson?_reorder hstart,
      Position.ofJson?_reorder hstop]
  · rfl

theorem proper_toJson (s : Span) : s.toJson.Proper := by
  apply Json.proper_struct
  rintro m (_ | ⟨_, _ | ⟨_, ⟨⟩⟩⟩)
  · exact s.start.proper_toJson
  · exact s.stop.proper_toJson

theorem ofJson?_toJson {s : Span} (hstart : s.start.Bounded) (hstop : s.stop.Bounded) :
    ofJson? s.toJson = some s := by
  have hfields : Document.allFields? ["start", "end"] s.toJson =
      some [s.start.toJson, s.stop.toJson] := Json.allFields?_struct (by simp)
  rw [ofJson?, hfields]
  simp [Position.ofJson?_toJson hstart, Position.ofJson?_toJson hstop]

end Span

namespace Kind

/-- The rule for names in JSON and its two exceptions amount to the printed names. -/
theorem jsonName_eq (k : Kind) : k.jsonName = k.label := by
  cases k <;> rfl

theorem ofJsonName?_eq (s : String) : ofJsonName? s = ofLabel? s := by
  simp only [ofJsonName?, ofLabel?, jsonName_eq]

theorem ofLabel?_eq_some_iff {s : String} {k : Kind} : ofLabel? s = some k ↔ s = k.label := by
  constructor
  · intro h
    have hfound := List.find?_some h
    exact (eq_of_beq hfound).symm
  · rintro rfl
    exact ofLabel?_label k

end Kind

namespace Token

theorem ofJson?_reorder (h : Json.Reorder j j') : ofJson? j = ofJson? j' := by
  apply Json.bind_eq_of_rel _ (Json.allFields?_reorder _ h)
  rintro _ _ (_ | ⟨hkind, _ | ⟨htext, _ | ⟨hspan, _ | ⟨_, _⟩⟩⟩⟩)
  · rfl
  · rfl
  · rfl
  · simp only [Option.bind_eq_bind, Json.choice?_reorder hkind, Json.text?_reorder htext,
      Span.ofJson?_reorder hspan]
  · rfl

theorem ofJson?_reordered (h : Json.Reordered j j') : ofJson? j = ofJson? j' := by
  induction h with
  | refl => rfl
  | tail _ hstep ih => exact ih.trans (ofJson?_reorder hstep)

def Bounded (t : Token) : Prop := t.span.start.Bounded ∧ t.span.stop.Bounded

theorem proper_toJson (t : Token) : t.toJson.Proper := by
  apply Json.proper_struct
  rintro m (_ | ⟨_, _ | ⟨_, _ | ⟨_, ⟨⟩⟩⟩⟩)
  · exact .text t.kind.jsonName
  · exact .text t.text
  · exact t.span.proper_toJson

theorem ofJson?_toJson {t : Token} (h : t.Bounded) : ofJson? t.toJson = some t := by
  have hfields : Document.allFields? ["kind", "text", "span"] t.toJson =
      some [.string t.kind.jsonName, .string t.text, t.span.toJson] :=
    Json.allFields?_struct (by simp)
  have hkind : (Json.string t.kind.jsonName).choice?.bind Kind.ofJsonName? = some t.kind := by
    rw [Kind.jsonName_eq]
    exact (Kind.ofJsonName?_eq _).trans (Kind.ofLabel?_label t.kind)
  have htext : (Json.string t.text).text? = some t.text := rfl
  rw [ofJson?, hfields]
  simp [hkind, htext, Span.ofJson?_toJson h.1 h.2]

theorem ofJsonText?_reordered {t : Token} (h : t.Bounded) (hj : Json.Reordered t.toJson j) :
    ofJsonText? j.compact = some t := by
  rw [ofJsonText?, Json.ofString?_compact (t.proper_toJson.reordered hj), Option.bind_some,
    ← ofJson?_reordered hj]
  exact ofJson?_toJson h

theorem mapM_ofJson?_reorder {items items' : List Json}
    (h : List.Forall₂ Json.Reorder items items') :
    items.mapM ofJson? = items'.mapM ofJson? := by
  induction h with
  | nil => rfl
  | cons hj _ ih => rw [List.mapM_cons, List.mapM_cons, ofJson?_reorder hj, ih]

theorem listOfJson?_reordered (h : Json.Reordered j j') : listOfJson? j = listOfJson? j' := by
  induction h with
  | refl => rfl
  | tail _ hstep ih =>
    rw [ih]
    apply Json.bind_eq_of_rel _ (Json.items?_reorder hstep)
    intro items items' hitems
    exact mapM_ofJson?_reorder hitems

theorem proper_list (ts : List Token) : (Json.array (ts.map toJson)).Proper := by
  apply Json.Proper.array
  intro j hj
  obtain ⟨t, _, rfl⟩ := List.mem_map.mp hj
  exact t.proper_toJson

theorem listOfJson?_toJson {ts : List Token} (h : ∀ t ∈ ts, t.Bounded) :
    listOfJson? (.array (ts.map toJson)) = some ts := by
  have hread := Json.mapM_eq_some (g := id) fun t ht => ofJson?_toJson (h t ht)
  rw [List.map_id] at hread
  change (ts.map toJson).mapM ofJson? = some ts
  rw [List.mapM_map]
  exact hread

theorem listOfText?_reordered {ts : List Token} (h : ∀ t ∈ ts, t.Bounded)
    (hj : Json.Reordered (.array (ts.map toJson)) j) : listOfText? j.compact = some ts := by
  rw [listOfText?, Json.ofString?_compact ((proper_list ts).reordered hj), Option.bind_some,
    ← listOfJson?_reordered hj]
  exact listOfJson?_toJson h

/-- Tokens come back from their JSON, one by one and as a list, whatever the order of members; and a
kind has the name in JSON that it is printed with, which is the one name that it is read from. -/
theorem json_round_trip (ts : List Token) (h : ∀ t ∈ ts, t.Bounded) :
    (∀ j, Json.Reordered (.array (ts.map toJson)) j → listOfText? j.compact = some ts) ∧
    (∀ t ∈ ts, ∀ j, Json.Reordered t.toJson j → ofJsonText? j.compact = some t) ∧
    ∀ t ∈ ts, t.toJson.get? "kind" = some (.string t.kind.label) ∧
      ∀ s, Kind.ofLabel? s = some t.kind ↔ s = t.kind.label := by
  refine ⟨fun j => listOfText?_reordered h, fun t ht j => ofJsonText?_reordered (h t ht), ?_⟩
  intro t _
  refine ⟨?_, fun s => Kind.ofLabel?_eq_some_iff⟩
  rw [← Kind.jsonName_eq]
  rfl

/-- The sentinel and a token with quotes, control characters and an astral character; the first is
written with the members of its objects turned round. -/
theorem json_round_trip_turned :
    let sentinel := missing
    let t : Token := ⟨.string, "\"\\\n\x07𝄞\"", ⟨⟨1, Text.int64Min⟩, ⟨Text.int64Max, 0⟩⟩⟩
    let turned : Json := .struct
      [("span", .struct
        [("end", .struct [("column", .int (-1)), ("line", .int (-1))]),
         ("start", .struct [("line", .int (-1)), ("column", .int (-1))])]),
       ("text", .string "undefined"), ("kind", .string "unknown")]
    listOfText? (Json.array [turned, t.toJson]).compact = some [sentinel, t] ∧
      ofJsonText? turned.compact = some sentinel := by
  intro sentinel t turned
  have hbounded : ∀ u ∈ [sentinel, t], u.Bounded := by
    unfold Bounded Position.Bounded
    decide
  have hstop : Json.Reordered sentinel.span.stop.toJson
      (.struct [("column", .int (-1)), ("line", .int (-1))]) := Json.reordered_reverse _
  have hspan : Json.Reordered sentinel.span.toJson (.struct
      [("end", .struct [("column", .int (-1)), ("line", .int (-1))]),
       ("start", sentinel.span.start.toJson)]) :=
    (Json.reordered_reverse _).trans
      (hstop.member [] [(some "start", sentinel.span.start.toJson)] (some "end"))
  have hturned : Json.Reordered sentinel.toJson turned :=
    (Json.reordered_reverse _).trans
      (hspan.member [] [(some "text", .string "undefined"), (some "kind", .string "unknown")]
        (some "span"))
  obtain ⟨hlist, hone, -⟩ := json_round_trip [sentinel, t] hbounded
  exact ⟨hlist _ (hturned.item [] [t.toJson]), hone sentinel List.mem_cons_self turned hturned⟩

end Token

end Offside
