import Rollup.Inquiry
import Rollup.Proofs.Json.RecordText

/-!
# Spellings of an inquiry

A client may leave out what it does not ask for or write `null`, give members in
any order and under either name where a field has two, and send members that
are no field at all, with any value in them. All these texts are read as the
same inquiry, and so is the array of its eight values. What is refused is a text
that gives one field twice, under one name or under both.

`only names` is what the loop over the members knows after it has read the
fields of those names. A member is taken by one lemma for all eight fields,
because each of them sets its part of the record and leaves the rest.
-/

namespace Rollup.Inquiry

open Json

/-! ## What is written -/

/-- The keys under which a field can come. -/
def knownKeys : List String :=
  ["dataspace", "start", "end", "q", "query", "breakdown", "breakdowns", "size", "examples",
    "interval"]

/-- A member of the text of an inquiry: a field of it under one of its names, or any value under a
key that is no field's. -/
inductive MemberText (q : Inquiry) : String × List Char → Prop
  | dataspace {v : List Char} :
      OptionalText Literal v q.dataspace → MemberText q ("dataspace", v)
  | start {v : List Char} : OptionalText Literal v q.start → MemberText q ("start", v)
  | stop {v : List Char} : OptionalText Literal v q.stop → MemberText q ("end", v)
  | query {key : String} {v : List Char} :
      key = "q" ∨ key = "query" → OptionalText Literal v q.query → MemberText q (key, v)
  | breakdowns {key : String} {v : List Char} :
      key = "breakdown" ∨ key = "breakdowns" →
        OptionalText (ListText (OptionalText Literal)) v q.breakdowns → MemberText q (key, v)
  | size {v : List Char} : OptionalText CountText v q.size → MemberText q ("size", v)
  | examples {v : List Char} : OptionalText CountText v q.examples → MemberText q ("examples", v)
  | interval {v : List Char} : OptionalText Literal v q.interval → MemberText q ("interval", v)
  | unknown {key : String} {v : List Char} :
      key ∉ knownKeys → ValueText v → MemberText q (key, v)

/-- The names of the fields in the order in which they are declared. -/
def declared : List String :=
  ["dataspace", "start", "end", "q", "breakdown", "size", "examples", "interval"]

/-- The names of the fields that hold something. -/
def given (q : Inquiry) : List String :=
  ([("dataspace", q.dataspace.isSome), ("start", q.start.isSome), ("end", q.stop.isSome),
    ("q", q.query.isSome), ("breakdown", q.breakdowns.isSome), ("size", q.size.isSome),
    ("examples", q.examples.isSome), ("interval", q.interval.isSome)].filter Prod.snd).map Prod.fst

theorem given_subset (q : Inquiry) : q.given ⊆ declared :=
  (List.filter_sublist.map Prod.fst).subset

/-- The members of an object spell an inquiry: none is out of place, no field comes twice, and what
is left out holds nothing. -/
structure Spells (q : Inquiry) (members : List (String × List Char)) : Prop where
  member : ∀ m ∈ members, MemberText q m
  once : (namesOf fields members).Nodup
  given : ∀ name ∈ q.given, name ∈ namesOf fields members

/-- A text holds one value, with blanks around it. -/
def Holds (text : String) (value : List Char) : Prop :=
  ∃ w w', AllBlank w ∧ AllBlank w' ∧ text.toList = w ++ (value ++ w')

/-! ## A part of an inquiry -/

/-- The fields of those names, and nothing else. -/
def only (q : Inquiry) (names : List String) : Inquiry where
  dataspace := if "dataspace" ∈ names then q.dataspace else none
  start := if "start" ∈ names then q.start else none
  stop := if "end" ∈ names then q.stop else none
  query := if "q" ∈ names then q.query else none
  breakdowns := if "breakdown" ∈ names then q.breakdowns else none
  size := if "size" ∈ names then q.size else none
  examples := if "examples" ∈ names then q.examples else none
  interval := if "interval" ∈ names then q.interval else none

theorem only_eq_self {q : Inquiry} {names : List String} (h : ∀ name ∈ q.given, name ∈ names) :
    q.only names = q := by
  have hkept : ∀ {α : Type} {a : Option α} {name : String},
      (a.isSome = true → name ∈ names) → (if name ∈ names then a else none) = a := by
    intro α a name hname
    cases a with
    | none => exact ite_self none
    | some a => exact if_pos (hname rfl)
  simp only [Inquiry.given, List.mem_map, List.mem_filter, List.mem_cons, List.not_mem_nil,
    or_false] at h
  obtain ⟨dataspace, start, stop, query, breakdowns, size, examples, interval⟩ := q
  simp only [only, mk.injEq]
  refine ⟨hkept ?_, hkept ?_, hkept ?_, hkept ?_, hkept ?_, hkept ?_, hkept ?_, hkept ?_⟩
  all_goals
    intro hsome
    exact h _ ⟨(_, true), ⟨by simp [hsome], rfl⟩, rfl⟩

/-! ## A member -/

theorem not_literal_null (text : String) : ¬ Literal ['n', 'u', 'l', 'l'] text := by
  rintro ⟨body, -, h⟩
  cases h

theorem not_countText_null (n : Nat) : ¬ CountText ['n', 'u', 'l', 'l'] n := fun h =>
  not_numberText (by decide) _ h.numberText

theorem not_listText_null {α : Type} {token : List Char → α → Prop} (items : List α) :
    ¬ ListText token ['n', 'u', 'l', 'l'] items := by
  intro h
  obtain ⟨body, hbody⟩ := h.exists_cons
  cases hbody

theorem reads_text : Reads (readOptional readText) (OptionalText Literal) :=
  reads_readText.readOptional not_literal_null

theorem reads_count : Reads (readOptional readCount) (OptionalText CountText) :=
  reads_readCount.readOptional not_countText_null

theorem reads_breakdowns : Reads (readOptional (readList (readOptional readText)))
    (OptionalText (ListText (OptionalText Literal))) :=
  reads_text.readList.readOptional not_listText_null

section

variable {α : Type} {read : Reader α} {token : List Char → Option α → Prop} {name : String}
  {aliases : List String} {defaulted : Bool} {set : Inquiry → Option α → Inquiry}

theorem spellsField {q : Inquiry} (hread : Reads (readOptional read) token) {a : Option α}
    (hset : ∀ names, set (q.only names) a = q.only (name :: names)) {v : List Char}
    (hv : token v a) : SpellsField q.only (field name aliases defaulted read set) v := by
  refine ⟨hread.valueText hv, fun names w rest hw hrest => ?_⟩
  refine Except.bind_eq_ok.mpr ⟨(a, rest), hread.eq_ok.mpr ⟨w, v, hw, hv, fun _ => hrest, rfl⟩, ?_⟩
  exact congrArg (fun q => Except.ok (q, rest)) (hset names)

theorem stopsBehind_field (hread : Reads (readOptional read) token) :
    StopsBehind (field name aliases defaulted read set) := by
  intro acc acc' cs rest h
  obtain ⟨⟨a, behind⟩, hvalue, h⟩ := Except.bind_eq_ok.mp h
  cases h
  obtain ⟨w, v, hw, hv, hrest, rfl⟩ := hread.eq_ok.mp hvalue
  exact skipValue_append hw (hread.valueText hv) hrest

end

theorem stopsBehind_fields : ∀ field ∈ fields, StopsBehind field := by
  simp only [fields, List.forall_mem_cons]
  exact ⟨stopsBehind_field reads_text, stopsBehind_field reads_text, stopsBehind_field reads_text,
    stopsBehind_field reads_text, stopsBehind_field reads_breakdowns,
    stopsBehind_field reads_count, stopsBehind_field reads_count, stopsBehind_field reads_text,
    nofun⟩

theorem namedField?_of_not_mem {key : String} (h : key ∉ knownKeys) :
    namedField? fields key = none := by
  rw [namedField?, List.find?_eq_none]
  simp only [knownKeys, List.mem_cons, List.not_mem_nil, or_false, not_or] at h
  simp [fields, field, Field.isNamed, h]

theorem MemberText.spellsMember {q : Inquiry} {m : String × List Char} (h : MemberText q m) :
    SpellsMember fields q.only m := by
  cases h with
  | dataspace hv => exact spellsField reads_text (fun _ => by simp [only]) hv
  | start hv => exact spellsField reads_text (fun _ => by simp [only]) hv
  | stop hv => exact spellsField reads_text (fun _ => by simp [only]) hv
  | query hkey hv =>
      rcases hkey with rfl | rfl
      · exact spellsField reads_text (fun _ => by simp [only]) hv
      · exact spellsField reads_text (fun _ => by simp [only]) hv
  | breakdowns hkey hv =>
      rcases hkey with rfl | rfl
      · exact spellsField reads_breakdowns (fun _ => by simp [only]) hv
      · exact spellsField reads_breakdowns (fun _ => by simp [only]) hv
  | size hv => exact spellsField reads_count (fun _ => by simp [only]) hv
  | examples hv => exact spellsField reads_count (fun _ => by simp [only]) hv
  | interval hv => exact spellsField reads_text (fun _ => by simp [only]) hv
  | unknown hkey hv =>
      rw [SpellsMember, namedField?_of_not_mem hkey]
      exact hv

/-! ## The text of an inquiry -/

theorem namedField?_name : ∀ field ∈ fields, namedField? fields field.name = some field := by
  simp only [fields, List.forall_mem_cons]
  exact ⟨rfl, rfl, rfl, rfl, rfl, rfl, rfl, rfl, nofun⟩

theorem ofText_of_readRecord {q : Inquiry} {text : String} {value : List Char}
    (htext : Holds text value)
    (hread : ∀ w rest, AllBlank w →
      readRecord "BreakdownQuery" fields empty (w ++ (value ++ rest)) = .ok (q, rest)) :
    ofText text = .ok q := by
  obtain ⟨w, w', hw, hw', htext⟩ := htext
  rw [ofText, htext, readWhole, hread w w' hw]
  exact if_pos (skipBlanks_of_allBlank hw')

/-- Every object that spells an inquiry is read as it, and so is the array of its values in their
order. An object in which two members name one field is refused, whatever their values. -/
theorem ofText_spelling (q : Inquiry) :
    (∀ text object members, Holds text object → RecordText object members → q.Spells members →
      ofText text = .ok q) ∧
    (∀ text array values, Holds text array → ListText Eq array values →
      List.Forall₂ (fun name v => MemberText q (name, v)) declared values →
      ofText text = .ok q) ∧
    ∀ text object members, Holds text object → RecordText object members →
      (∀ m ∈ members, ValueText m.2) → ¬ (namesOf fields members).Nodup →
      ∃ e, ofText text = .error e := by
  refine ⟨fun text object members htext hobject hspells => ?_,
    fun text array values htext harray hvalues => ?_,
    fun text object members htext hobject hvalues hrepeated => ?_⟩
  · refine ofText_of_readRecord htext fun w rest hw => ?_
    obtain ⟨names, hnames, hread⟩ := readRecord_object hobject
      (fun m hm => (hspells.member m hm).spellsMember) hspells.once
      (by simp [fields, field]) hw "BreakdownQuery" rest
    have hgiven : ∀ name ∈ q.given, name ∈ names := fun name hname =>
      hnames.mem_iff.mpr (hspells.given name hname)
    rwa [only_eq_self hgiven] at hread
  · refine ofText_of_readRecord htext fun w rest hw => ?_
    have hfields : List.Forall₂ (SpellsField q.only) fields values := by
      rw [show declared = fields.map Field.name from rfl, List.forall₂_map_left_iff] at hvalues
      refine ((List.forall₂_and_left ..).mpr ⟨namedField?_name, hvalues⟩).imp ?_
      rintro field v ⟨hnamed, hv⟩
      have hmember := hv.spellsMember
      rwa [SpellsMember, hnamed] at hmember
    have hgiven : ∀ name ∈ q.given, name ∈ (fields.map Field.name).reverse := fun name hname =>
      List.mem_reverse.mpr (q.given_subset hname)
    have hread := readRecord_array harray hfields hw "BreakdownQuery" rest
    rwa [only_eq_self hgiven] at hread
  · cases hresult : ofText text with
    | error e => exact ⟨e, rfl⟩
    | ok q' =>
        obtain ⟨w, w', hw, hw', htext⟩ := htext
        rw [ofText, htext] at hresult
        obtain ⟨result, hread, -⟩ := Except.bind_eq_ok.mp hresult
        exact absurd (nodup_of_readRecord stopsBehind_fields hobject hvalues hw hread) hrepeated

/-- What is asked for: the word `fever`, the hours of the events and all of them, three of each. -/
def feverish : Inquiry :=
  ⟨none, none, none, some "fever", some [some "evt/time", none], some 3, none, none⟩

theorem ofText_spelling_feverish :
    ofText ("\x7b\"query\":\"fever\",\"zone\":[1,\x7b\x7d],\"size\":3," ++
      " \"breakdowns\":[\"evt/time\", null],\"start\":null\x7d") = .ok feverish ∧
    ofText "[null,null,null,\"fever\",[\"evt/time\", null],3,null,null] " = .ok feverish ∧
    ∃ e, ofText "\x7b\"query\":\"fever\",\"zone\":[1,\x7b\x7d],\"q\":null\x7d" = .error e := by
  have hspace : AllBlank [' '] := List.forall_mem_singleton.mpr rfl
  have hquery : OptionalText Literal (writeString "fever") feverish.query :=
    .some (literal_writeString "fever")
  have hlist : OptionalText (ListText (OptionalText Literal)) _ feverish.breakdowns :=
    .some (.items .nil (.some (literal_writeString "evt/time"))
      (.comma .nil hspace .null (.close .nil)))
  have hsize : OptionalText CountText _ feverish.size := .some (countText_toDigits (by decide))
  have hone : NumberText (Nat.toDigits 10 1) := (countText_toDigits (by decide)).numberText
  have hzone : ValueText _ := .filled .list (.mk .nil .item .nil (.scalar (.number hone))
    (.comma .nil (.mk .nil .item .nil (.empty .object .nil) (.close .nil))))
  have hkey (key : String) : Spaced Literal (writeString key) key :=
    .of_token (literal_writeString key)
  have hmembers := List.forall_mem_cons.mpr ⟨MemberText.query (Or.inr rfl) hquery,
    List.forall_mem_cons.mpr ⟨.unknown (by decide : "zone" ∉ knownKeys) hzone,
    List.forall_mem_cons.mpr ⟨.size hsize,
    List.forall_mem_cons.mpr ⟨.breakdowns (Or.inr rfl) hlist,
    List.forall_mem_cons.mpr ⟨.start .null, List.forall_mem_nil _⟩⟩⟩⟩⟩
  have hvalues : List.Forall₂ (fun name v => MemberText feverish (name, v)) declared _ :=
    .cons (.dataspace .null) <| .cons (.start .null) <| .cons (.stop .null) <|
      .cons (.query (Or.inl rfl) hquery) <| .cons (.breakdowns (Or.inl rfl) hlist) <|
      .cons (.size hsize) <| .cons (.examples .null) <| .cons (.interval .null) .nil
  obtain ⟨hobject, harray, hrepeated⟩ := ofText_spelling feverish
  refine ⟨hobject _ _ _ ⟨[], [], .nil, .nil, ?_⟩
    (.members (hkey "query") .nil <| .comma .nil (hkey "zone") .nil <|
      .comma .nil (hkey "size") .nil <| .comma .nil ((hkey "breakdowns").append_left hspace) .nil <|
      .comma .nil (hkey "start") .nil (.close .nil)) ⟨hmembers, by decide, by decide⟩, ?_, ?_⟩
  · decide +kernel
  · refine harray _ _ _ ⟨[], [' '], .nil, hspace, ?_⟩ (.items .nil rfl <| .comma .nil .nil rfl <|
      .comma .nil .nil rfl <| .comma .nil .nil rfl <| .comma .nil .nil rfl <| .comma .nil .nil rfl <|
      .comma .nil .nil rfl <| .comma .nil .nil rfl (.close .nil)) hvalues
    decide +kernel
  · refine hrepeated _ _ _ ⟨[], [], .nil, .nil, ?_⟩ (.members (hkey "query") .nil <|
      .comma .nil (hkey "zone") .nil <| .comma .nil (hkey "q") .nil (.close .nil))
      (List.forall_mem_cons.mpr ⟨(literal_writeString "fever").valueText,
        List.forall_mem_cons.mpr ⟨hzone,
        List.forall_mem_cons.mpr ⟨.scalar .null, List.forall_mem_nil _⟩⟩⟩) (by decide)
    decide +kernel

/-- The array of values as an object, every value under the name of its field. -/
theorem spells_zip {q : Inquiry} {values : List (List Char)}
    (h : List.Forall₂ (fun name v => MemberText q (name, v)) declared values) :
    q.Spells (declared.zip values) := by
  have hkeys : (declared.zip values).map Prod.fst = declared :=
    List.map_fst_zip (Nat.le_of_eq h.length_eq)
  have hnames : namesOf fields (declared.zip values) = declared :=
    calc namesOf fields (declared.zip values)
        = ((declared.zip values).map Prod.fst).filterMap fun key =>
            (namedField? fields key).map Field.name := by
          rw [List.filterMap_map]
          rfl
      _ = declared := by rw [hkeys]; rfl
  exact ⟨fun m hm => (List.forall₂_iff_zip.mp h).2 hm, by rw [hnames]; decide,
    fun name hname => by rw [hnames]; exact q.given_subset hname⟩

/-- An inquiry whose counts fit in a word has a spelling in either form. -/
theorem exists_spelling {q : Inquiry} (hsize : ∀ n, q.size = some n → n < Word.unsignedBound)
    (hexamples : ∀ n, q.examples = some n → n < Word.unsignedBound) :
    (∃ object members, RecordText object members ∧ q.Spells members) ∧
    ∃ array values, ListText Eq array values ∧
      List.Forall₂ (fun name v => MemberText q (name, v)) declared values := by
  have htext (text : Option String) : ∃ v, OptionalText Literal v text :=
    exists_optionalText fun text _ => ⟨_, literal_writeString text⟩
  have hcount {count : Option Nat} (h : ∀ n, count = some n → n < Word.unsignedBound) :
      ∃ v, OptionalText CountText v count :=
    exists_optionalText fun n hn => ⟨_, countText_toDigits (h n hn)⟩
  have hlist : ∃ v, OptionalText (ListText (OptionalText Literal)) v q.breakdowns :=
    exists_optionalText fun _ _ => exists_listText fun text _ => htext text
  obtain ⟨dataspace, hdataspace⟩ := htext q.dataspace
  obtain ⟨start, hstart⟩ := htext q.start
  obtain ⟨stop, hstop⟩ := htext q.stop
  obtain ⟨query, hquery⟩ := htext q.query
  obtain ⟨breakdowns, hbreakdowns⟩ := hlist
  obtain ⟨size, hsize⟩ := hcount hsize
  obtain ⟨examples, hexamples⟩ := hcount hexamples
  obtain ⟨interval, hinterval⟩ := htext q.interval
  have hvalues : List.Forall₂ (fun name v => MemberText q (name, v)) declared
      [dataspace, start, stop, query, breakdowns, size, examples, interval] :=
    .cons (.dataspace hdataspace) <| .cons (.start hstart) <| .cons (.stop hstop) <|
      .cons (.query (Or.inl rfl) hquery) <| .cons (.breakdowns (Or.inl rfl) hbreakdowns) <|
      .cons (.size hsize) <| .cons (.examples hexamples) <| .cons (.interval hinterval) .nil
  obtain ⟨object, hobject⟩ := exists_recordText (declared.zip
    [dataspace, start, stop, query, breakdowns, size, examples, interval])
  obtain ⟨array, harray⟩ : ∃ array, ListText Eq array
      [dataspace, start, stop, query, breakdowns, size, examples, interval] :=
    exists_listText fun v _ => ⟨v, rfl⟩
  exact ⟨⟨object, _, hobject, spells_zip hvalues⟩, array, _, harray, hvalues⟩

end Rollup.Inquiry
