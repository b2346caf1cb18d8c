import Rollup.Proofs.Breakdown.BesideBare

/-!
# Reports without quotes

A report may be written without any quotes, as in `{count: avg, dt: sum}`. It is
read as if every name in it had quotes, because putting them in is just what the
two passes do to such a text.

Each pass goes on behind the character that closes a name, and the next name has
to be opened by what is left. For keys the colon closes, the value is passed
over, and the comma behind it is still there to open the next key. For values
the comma itself closes, and the colon that opens the next value comes after the
next key. So a pass takes one member at a time, and the run over all members is
an induction over their list. The second pass runs over keys that have quotes by
then; there is no colon in them.
-/

namespace Rollup.Breakdown

open Rollup.Json

/-! ## Names between blanks -/

/-- A name between blanks. -/
structure SpacedName where
  before : List Char
  name : List Char
  after : List Char
  before_blank : AllBlank before
  nameText : NameText name
  after_blank : AllBlank after

namespace SpacedName

/-- The name as it is, between its blanks. -/
def bare (n : SpacedName) : List Char := n.before ++ n.name ++ n.after

/-- The name in quotes, between its blanks. -/
def quoted (n : SpacedName) : List Char := n.before ++ '"' :: (n.name ++ ['"']) ++ n.after

/-- What the name says, with quotes or without. -/
def text (n : SpacedName) : String := String.ofList n.name

theorem spaced_bare (n : SpacedName) : Spaced Token n.bare n.text :=
  ⟨n.before, n.name, n.after, n.before_blank, n.after_blank, .name n.nameText, rfl⟩

theorem spaced_quoted (n : SpacedName) : Spaced Literal n.quoted n.text :=
  ⟨n.before, _, n.after, n.before_blank, n.after_blank, literal_of_name n.nameText, rfl⟩

/-- No separator and no brace stands in a name between blanks. -/
theorem not_mem_bare (n : SpacedName) {c : Char} (hblank : isBlank c = false)
    (hname : continuesName c = false) : c ∉ n.bare := by
  have hnot : ∀ {w : List Char}, AllBlank w → c ∉ w := fun hw hmem => by
    rw [hw c hmem] at hblank
    cases hblank
  simp [bare, hnot n.before_blank, hnot n.after_blank, n.nameText.not_mem hname]

theorem not_mem_quoted (n : SpacedName) {c : Char} (hquote : c ≠ '"') (h : c ∉ n.bare) :
    c ∉ n.quoted := by
  simp only [bare, quoted, List.mem_append, List.mem_cons, List.not_mem_nil, not_or] at h ⊢
  exact ⟨⟨h.1.1, hquote, h.1.2, hquote, not_false⟩, h.2⟩

end SpacedName

theorem allBlank_of_json {w : List Char} (hw : AllBlank w) : Text.allBlank w = true := by
  rw [Text.allBlank_iff]
  intro c hc
  rcases json_isBlank_iff.mp (hw c hc) with rfl | rfl | rfl | rfl <;> decide

/-- A name between blanks gets its quotes, and the pass goes on behind what closes it. -/
theorem quoteNames_bare {opens closes : Char → Bool}
    (hcloses : ∀ c, closes c = true → Separator c) {c close : Char} (hopens : opens c = true)
    (hclose : closes close = true) (n : SpacedName) (rest : List Char) :
    quoteNames opens closes (c :: (n.bare ++ close :: rest)) =
      c :: (n.quoted ++ close :: quoteNames opens closes rest) := by
  have hpass : quoteNames opens closes (c :: (n.before ++ n.name ++ (n.after ++ [close]) ++ rest)) =
      _ := quoteNames_name hcloses hopens (allBlank_of_json n.before_blank) n.nameText
        (allBlank_of_json n.after_blank) hclose
  simpa [SpacedName.bare, SpacedName.quoted] using hpass

/-! ## Members -/

open SpacedName (bare quoted)

/-- A key and a value, each a name between blanks. -/
abbrev NamedMember := SpacedName × SpacedName

namespace NamedMember

/-- A member as a text, with a way to write keys and one to write values. -/
def write (key value : SpacedName → List Char) (m : NamedMember) : List Char :=
  key m.1 ++ ':' :: value m.2

/-- What a member says. -/
def pair (m : NamedMember) : String × String := (m.1.text, m.2.text)

end NamedMember

/-- Members with commas between them, up to the closing brace. -/
def writeMembers (key value : SpacedName → List Char) (members : List NamedMember) : List Char :=
  [','].intercalate (members.map (NamedMember.write key value)) ++ ['\x7d']

/-- A report of such members. -/
def writeReport (key value : SpacedName → List Char) (members : List NamedMember) : List Char :=
  '\x7b' :: writeMembers key value members

section

variable (key value : SpacedName → List Char) (m next : NamedMember) (rest : List NamedMember)

theorem writeMembers_singleton :
    writeMembers key value [m] = m.write key value ++ ['\x7d'] := by
  rw [writeMembers, List.map_singleton, List.intercalate_singleton]

theorem writeMembers_cons_cons :
    writeMembers key value (m :: next :: rest) =
      m.write key value ++ ',' :: writeMembers key value (next :: rest) := by
  simp [writeMembers, List.intercalate_cons_cons]

end

/-- Whichever tokens the names are written as, what comes out are members with these names. -/
theorem membersText_writeMembers {token : List Char → String → Prop}
    {key value : SpacedName → List Char} (hkey : ∀ n, Spaced token (key n) n.text)
    (hvalue : ∀ n, Spaced token (value n) n.text) {members : List NamedMember}
    (hne : members ≠ []) :
    MembersText token (writeMembers key value members) (members.map NamedMember.pair) := by
  induction members with
  | nil => exact absurd rfl hne
  | cons m rest ih =>
      cases rest with
      | nil =>
          rw [writeMembers_singleton, NamedMember.write, List.append_assoc, List.cons_append]
          exact .last (hkey m.1) (hvalue m.2)
      | cons next rest =>
          rw [writeMembers_cons_cons, NamedMember.write, List.append_assoc, List.cons_append]
          exact .more (hkey m.1) (hvalue m.2) (ih (List.cons_ne_nil _ _))

/-! ## The passes, one member at a time -/

theorem quoteKeys_write {c : Char} (hc : (decide (c = '\x7b') || decide (c = ',')) = true)
    (m : NamedMember) (rest : List Char) :
    quoteKeys (c :: (m.write bare bare ++ rest)) =
      c :: (m.write quoted bare ++ quoteKeys rest) := by
  have hbrace : '\x7b' ∉ m.2.bare := m.2.not_mem_bare (by decide) (by decide +kernel)
  have hcomma : ',' ∉ m.2.bare := m.2.not_mem_bare (by decide) (by decide +kernel)
  have hvalue (d : Char) (hd : d ∈ m.2.bare) :
      (decide (d = '\x7b') || decide (d = ',')) = false := by
    have hne : d ≠ '\x7b' := fun h => hbrace (h ▸ hd)
    have hne' : d ≠ ',' := fun h => hcomma (h ▸ hd)
    simp [hne, hne']
  calc quoteKeys (c :: (m.write bare bare ++ rest))
      = quoteKeys (c :: (m.1.bare ++ ':' :: (m.2.bare ++ rest))) := by
        rw [NamedMember.write, List.append_assoc, List.cons_append]
    _ = c :: (m.1.quoted ++ ':' :: quoteKeys (m.2.bare ++ rest)) :=
        quoteNames_bare separator_of_key hc rfl m.1 _
    _ = c :: (m.1.quoted ++ ':' :: (m.2.bare ++ quoteKeys rest)) := by
        rw [quoteKeys, quoteNames_append separator_of_key hvalue]
    _ = c :: (m.write quoted bare ++ quoteKeys rest) := by
        rw [NamedMember.write, List.append_assoc, List.cons_append]

theorem quoteValues_write {close : Char}
    (hclose : (decide (close = ',') || decide (close = '\x7d')) = true) (m : NamedMember)
    (rest : List Char) :
    quoteValues (m.write quoted bare ++ close :: rest) =
      m.write quoted quoted ++ close :: quoteValues rest := by
  have hcolon : ':' ∉ m.1.quoted :=
    m.1.not_mem_quoted (by decide) (m.1.not_mem_bare (by decide) (by decide +kernel))
  have hkey (d : Char) (hd : d ∈ m.1.quoted) : decide (d = ':') = false :=
    decide_eq_false fun h => hcolon (h ▸ hd)
  calc quoteValues (m.write quoted bare ++ close :: rest)
      = quoteValues (m.1.quoted ++ ':' :: (m.2.bare ++ close :: rest)) := by
        rw [NamedMember.write, List.append_assoc, List.cons_append]
    _ = m.1.quoted ++ quoteValues (':' :: (m.2.bare ++ close :: rest)) :=
        quoteNames_append separator_of_value hkey _
    _ = m.1.quoted ++ ':' :: (m.2.quoted ++ close :: quoteValues rest) :=
        congrArg _ (quoteNames_bare separator_of_value rfl hclose m.2 rest)
    _ = m.write quoted quoted ++ close :: quoteValues rest := by
        rw [NamedMember.write, List.append_assoc, List.cons_append]

/-! ## The passes over all members -/

section

variable {members : List NamedMember} (hne : members ≠ [])
include hne

/-- Every key gets its quotes, from the brace or a comma in front of the members on. -/
theorem quoteKeys_writeMembers {c : Char}
    (hc : (decide (c = '\x7b') || decide (c = ',')) = true) :
    quoteKeys (c :: writeMembers bare bare members) =
      c :: writeMembers quoted bare members := by
  induction members generalizing c with
  | nil => exact absurd rfl hne
  | cons m rest ih =>
      cases rest with
      | nil =>
          have hend : quoteKeys ['\x7d'] = ['\x7d'] := by decide +kernel
          rw [writeMembers_singleton, quoteKeys_write hc, hend, writeMembers_singleton]
      | cons next rest =>
          rw [writeMembers_cons_cons, quoteKeys_write hc, ih (List.cons_ne_nil _ _) rfl,
            writeMembers_cons_cons]

/-- Every value gets its quotes. -/
theorem quoteValues_writeMembers :
    quoteValues (writeMembers quoted bare members) = writeMembers quoted quoted members := by
  induction members with
  | nil => exact absurd rfl hne
  | cons m rest ih =>
      cases rest with
      | nil =>
          have hend : quoteValues [] = [] := by decide +kernel
          rw [writeMembers_singleton, quoteValues_write rfl, hend, writeMembers_singleton]
      | cons next rest =>
          rw [writeMembers_cons_cons, quoteValues_write rfl, ih (List.cons_ne_nil _ _),
            writeMembers_cons_cons]

theorem quoted_writeReport :
    quoteValues (quoteKeys (writeReport bare bare members)) =
      writeReport quoted quoted members := by
  have hbrace (d : Char) (hd : d ∈ ['\x7b']) : decide (d = ':') = false := by
    rw [List.mem_singleton.mp hd]
    rfl
  have hfront := quoteNames_append separator_of_value hbrace (writeMembers quoted bare members)
  rw [writeReport, quoteKeys_writeMembers hne rfl]
  exact hfront.trans (congrArg _ (quoteValues_writeMembers hne))

/-! ## Both forms are read alike -/

theorem readStrictReport_quoted :
    readStrictReport (writeReport quoted quoted members) =
      .ok (Dict.ofPairs (members.map NamedMember.pair)) := by
  have hobject : ObjectText Literal (writeReport quoted quoted members) _ :=
    .members (membersText_writeMembers SpacedName.spaced_quoted SpacedName.spaced_quoted hne)
  have hread := readWhole_readMap_append .nil .nil hobject
  rwa [List.nil_append, List.append_nil] at hread

theorem readReport_bare :
    readReport (writeReport bare bare members) =
      .ok (Dict.ofPairs (members.map NamedMember.pair)) := by
  have htext : ReportText (writeReport bare bare members) _ :=
    .members (membersText_writeMembers SpacedName.spaced_bare SpacedName.spaced_bare hne)
  have hlast : (writeReport bare bare members).getLast? = some '\x7d' := getLast?_braced _
  obtain ⟨operations, hread⟩ :
      ∃ operations, readReport (writeReport bare bare members) = .ok operations := by
    rw [readReport]
    split
    · exact ⟨_, rfl⟩
    · rw [quoted_writeReport hne]
      exact ⟨_, readStrictReport_quoted hne⟩
  -- Whichever way it was read, its members are those that are written.
  obtain ⟨pairs, hbetween, rfl⟩ := readReport_spec hread
  rw [hread, (hbetween.reportText rfl hlast).unique htext]

/-- A report without quotes is read as the same report with every name in quotes. Both say what their
members say, the last of a key winning. -/
theorem parse_bare_eq_parse_quoted {chain w : List Char} {fields : List String}
    (hchain : ChainText chain fields) (hw : Text.allBlank w = true) :
    parse (String.ofList (chain ++ writeReport bare bare members ++ w)) =
        .ok ⟨fields, some (Dict.ofPairs (members.map NamedMember.pair))⟩ ∧
      parse (String.ofList (chain ++ writeReport bare bare members ++ w)) =
        parse (String.ofList (chain ++ writeReport quoted quoted members ++ w)) := by
  have hparse {report : List Char} (hhead : report.head? = some '\x7b')
      (hlast : report.getLast? = some '\x7d')
      (hread : readReport report = .ok (Dict.ofPairs (members.map NamedMember.pair))) :
      parse (String.ofList (chain ++ report ++ w)) =
        .ok ⟨fields, some (Dict.ofPairs (members.map NamedMember.pair))⟩ :=
    parse_of_report String.toList_ofList hchain hhead hlast hw hread
  have hbare := hparse rfl (getLast?_braced _) (readReport_bare hne)
  have hquoted := hparse rfl (getLast?_braced _)
    (readReport_of_strict (readStrictReport_quoted hne))
  exact ⟨hbare, hbare.trans hquoted.symm⟩

end

theorem NameText.of_all {c : Char} {cs : List Char} (h : startsName c = true)
    (hmore : cs.all continuesName = true) : NameText (c :: cs) := .mk h (List.all_eq_true.mp hmore)

theorem allBlank_of_all {w : List Char} (h : w.all isBlank = true) : AllBlank w :=
  List.all_eq_true.mp h

/-- Words of JSON as names, a key that is written twice, and blanks of all four kinds. -/
def wordsOfJson : List NamedMember :=
  [(⟨['\t'], "true".toList, [' '], allBlank_of_all rfl, .of_all rfl rfl, allBlank_of_all rfl⟩,
      ⟨[], "null".toList, [], .nil, .of_all rfl rfl, .nil⟩),
    (⟨[], "count".toList, ['\n'], .nil, .of_all rfl rfl, allBlank_of_all rfl⟩,
      ⟨[' '], "xé.1".toList, [' '], allBlank_of_all rfl, .of_all rfl rfl, allBlank_of_all rfl⟩),
    (⟨['\r'], "true".toList, [], allBlank_of_all rfl, .of_all rfl rfl, .nil⟩,
      ⟨[], "_false".toList, [], .nil, .of_all rfl rfl, .nil⟩)]

theorem parse_bare_wordsOfJson :
    parse "tag / time \x7b\ttrue :null,count\n: xé.1 ,\rtrue:_false\x7d \n" =
        .ok ⟨["tag", "time"], some (.ofPairs [("count", "xé.1"), ("true", "_false")])⟩ ∧
      parse "tag / time \x7b\ttrue :null,count\n: xé.1 ,\rtrue:_false\x7d \n" =
        parse ("tag / time \x7b\t\"true\" :\"null\",\"count\"\n: \"xé.1\" ," ++
          "\r\"true\":\"_false\"\x7d \n") := by
  have hchain : ChainText "tag / time ".toList ["tag", "time"] :=
    (@readChain_eq_ok "" _ _).mp (by decide +kernel)
  have hbare : String.ofList ("tag / time ".toList ++ writeReport bare bare wordsOfJson ++
      [' ', '\n']) = "tag / time \x7b\ttrue :null,count\n: xé.1 ,\rtrue:_false\x7d \n" := by
    decide +kernel
  have hquoted : String.ofList ("tag / time ".toList ++ writeReport quoted quoted wordsOfJson ++
      [' ', '\n']) = "tag / time \x7b\t\"true\" :\"null\",\"count\"\n: \"xé.1\" ," ++
        "\r\"true\":\"_false\"\x7d \n" := by
    decide +kernel
  have hpairs : Dict.ofPairs (wordsOfJson.map NamedMember.pair) =
      .ofPairs [("count", "xé.1"), ("true", "_false")] := by decide +kernel
  have hne : wordsOfJson ≠ [] := List.cons_ne_nil _ _
  have hw : Text.allBlank [' ', '\n'] = true := by decide
  have hparse := parse_bare_eq_parse_quoted hne hchain hw
  rwa [hbare, hquoted, hpairs] at hparse

end Rollup.Breakdown
