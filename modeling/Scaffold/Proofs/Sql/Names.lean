import Scaffold.Proofs.Column.Names
import Scaffold.Proofs.Sql.Statement

/-! # The names in a statement

The statement that creates a table is put together from fixed texts, from the names of the table and
its columns, from the tables and columns that references name, and from defaults. The names are
checked where they are written. What a reference names is not: it is as safe as the reference that
the column was made with, and a column line makes safe ones only.
-/

namespace Scaffold.Sql

open Name (isIdentifier)

def fixedTexts : List String :=
  ["CREATE TABLE ", " (\n", ",\n", "\n);", "  ", " ", "INTEGER", "BIGINT", "TEXT", "BOOLEAN",
    "REAL", "TIMESTAMPTZ", "UUID", "JSONB", "BYTEA", "SERIAL", "UUID DEFAULT gen_random_uuid()",
    " PRIMARY KEY", " NOT NULL", " DEFAULT ", " REFERENCES ", "(", ") ON DELETE CASCADE"]

inductive Piece
  | fixed (s : String)
  | name (s : String)
  | target (s : String)
  | default (l : Column.Literal)
  deriving DecidableEq, Repr

def IsPath (s : String) : Prop := ∀ p ∈ Text.split '.' s.toList, isIdentifier p = true

instance (s : String) : Decidable (IsPath s) := inferInstanceAs (Decidable (∀ p ∈ _, _))

namespace Piece

def text : Piece → String
  | fixed s | name s | target s => s
  | default l => l.sql

/-- A safe piece: a name is an identifier, and what a reference names is a path of them. -/
def IsSafe : Piece → Prop
  | name s => isIdentifier s.toList = true
  | target s => IsPath s
  | fixed _ | default _ => True

instance (p : Piece) : Decidable p.IsSafe := by
  cases p <;> unfold IsSafe <;> infer_instance

end Piece

def written (ps : List Piece) : String := String.join (ps.map Piece.text)

namespace Definition

def defaultPieces : Option Column.Literal → List Piece
  | some l => [.fixed " DEFAULT ", .default l]
  | none => []

def referencePieces : Option (String × String) → List Piece
  | some (table, column) =>
    [.fixed " REFERENCES ", .target table, .fixed "(", .target column,
      .fixed ") ON DELETE CASCADE"]
  | none => []

def pieces (d : Definition) : List Piece :=
  [Piece.fixed "  ", Piece.name d.name, Piece.fixed " ", Piece.fixed d.storage.text] ++
  (if d.primaryKey then [Piece.fixed " PRIMARY KEY"] else []) ++
  (if d.notNull then [Piece.fixed " NOT NULL"] else []) ++
  defaultPieces d.default ++ referencePieces d.references

end Definition

def Table.pieces (t : Table) : List Piece :=
  [Piece.fixed "CREATE TABLE ", Piece.name t.name, Piece.fixed " (\n"] ++
    List.intercalate [Piece.fixed ",\n"] (t.definitions.map (·.pieces)) ++ [Piece.fixed "\n);"]

def pieces (table : String) (cs : List Column) : List Piece :=
  Table.pieces ⟨Name.snake table, cs.map fun c => Column.definition c (Name.snake c.name)⟩

section

variable {α : Type} {x : α} {sep xs : List α} {xss : List (List α)}

theorem mem_intercalate_of_mem (h : xs ∈ xss) (hx : x ∈ xs) : x ∈ List.intercalate sep xss := by
  induction xss with
  | nil => cases h
  | cons ys xss ih =>
    rcases eq_or_ne xss [] with rfl | hn
    · simpa [List.mem_singleton.mp h] using hx
    · rw [List.intercalate_cons_of_ne_nil hn, List.mem_append, List.mem_append]
      rcases List.mem_cons.mp h with rfl | h
      · exact Or.inl (Or.inl hx)
      · exact Or.inr (ih h)

theorem mem_intercalate (h : x ∈ List.intercalate sep xss) : x ∈ sep ∨ ∃ xs ∈ xss, x ∈ xs := by
  induction xss with
  | nil => simp at h
  | cons ys xss ih =>
    rcases eq_or_ne xss [] with rfl | hn
    · exact Or.inr ⟨ys, List.mem_cons_self, by simpa using h⟩
    · rw [List.intercalate_cons_of_ne_nil hn, List.mem_append, List.mem_append] at h
      rcases h with (h | h) | h
      · exact Or.inr ⟨ys, List.mem_cons_self, h⟩
      · exact Or.inl h
      · obtain hs | ⟨zs, hz, hx⟩ := ih h
        · exact Or.inl hs
        · exact Or.inr ⟨zs, List.mem_cons_of_mem ys hz, hx⟩

end

variable {table text : String} {cs : List Column} {ps qs : List Piece}

/-! ### The pieces make up the statement -/

theorem written_append : written (ps ++ qs) = written ps ++ written qs := by
  rw [written, List.map_append, String.join_append]
  rfl

theorem written_intercalate (s : String) (pss : List (List Piece)) :
    written (List.intercalate [.fixed s] pss) = String.intercalate s (pss.map written) := by
  induction pss with
  | nil => rfl
  | cons ps pss ih =>
    rcases eq_or_ne pss [] with rfl | hn
    · simp
    · rw [List.intercalate_cons_of_ne_nil hn, written_append, written_append, ih, List.map_cons,
        String.intercalate_cons_of_ne_nil (by simpa using hn)]
      rfl

theorem written_optional (b : Bool) (s : String) :
    written (if b then [.fixed s] else []) = if b then s else "" := by
  cases b <;> simp [written, Piece.text]

namespace Definition

theorem written_defaultPieces (l : Option Column.Literal) :
    written (defaultPieces l) = defaultText l := by
  cases l <;> simp [written, Piece.text, defaultPieces, defaultText]

theorem written_referencePieces (r : Option (String × String)) :
    written (referencePieces r) = referenceText r := by
  cases r with
  | none => rfl
  | some r =>
    rw [referenceText.eq_def]
    simp [written, Piece.text, referencePieces, String.append_assoc]

theorem written_pieces (d : Definition) : written d.pieces = d.text := by
  have htext : d.text = "  " ++ d.name ++ " " ++ d.storage.text ++
      ((if d.primaryKey then " PRIMARY KEY" else "") ++ (if d.notNull then " NOT NULL" else "") ++
        defaultText d.default ++ referenceText d.references) := rfl
  have hstart : written [.fixed "  ", .name d.name, .fixed " ", .fixed d.storage.text] =
      "  " ++ d.name ++ " " ++ d.storage.text := by
    simp [written, Piece.text, String.append_assoc]
  unfold pieces
  rw [htext, written_append, written_append, written_append, written_append, hstart,
    written_optional, written_optional, written_defaultPieces, written_referencePieces]
  simp only [String.append_assoc]

end Definition

theorem Table.written_pieces (t : Table) : written t.pieces = t.text := by
  have hstart : written [.fixed "CREATE TABLE ", .name t.name, .fixed " (\n"] =
      "CREATE TABLE " ++ t.name ++ " (\n" := by
    simp [written, Piece.text, String.append_assoc]
  have hend : written [.fixed "\n);"] = "\n);" := by
    simp [written, Piece.text]
  unfold pieces text
  rw [written_append, written_append, hstart, hend, written_intercalate, List.map_map]
  simp only [Function.comp_def, Definition.written_pieces]

/-! ### What the pieces are -/

theorem text_mem_fixedTexts (s : Storage) : s.text ∈ fixedTexts := by
  cases s with
  | kind k => cases k <;> simp [Storage.text, Column.Kind.sqlName, fixedTexts]
  | serial | generatedUuid => simp [Storage.text, fixedTexts]

section

variable {P : Piece → Prop} (hf : ∀ s ∈ fixedTexts, P (.fixed s)) (hl : ∀ l, P (.default l))

include hf hl

theorem Definition.forall_pieces (d : Definition) : (∀ p ∈ d.pieces, P p) ↔
    P (.name d.name) ∧ ∀ r ∈ d.references, P (.target r.1) ∧ P (.target r.2) := by
  have hwords : P (.fixed "  ") ∧ P (.fixed " ") ∧ P (.fixed " PRIMARY KEY") ∧
      P (.fixed " NOT NULL") ∧ P (.fixed " DEFAULT ") ∧ P (.fixed " REFERENCES ") ∧
      P (.fixed "(") ∧ P (.fixed ") ON DELETE CASCADE") := by
    refine ⟨hf _ ?_, hf _ ?_, hf _ ?_, hf _ ?_, hf _ ?_, hf _ ?_, hf _ ?_, hf _ ?_⟩ <;>
      simp [fixedTexts]
  have hstorage := hf _ (text_mem_fixedTexts d.storage)
  have hkey : ∀ p ∈ if d.primaryKey then [Piece.fixed " PRIMARY KEY"] else [], P p := by
    split <;> simp [hwords]
  have hnull : ∀ p ∈ if d.notNull then [Piece.fixed " NOT NULL"] else [], P p := by
    split <;> simp [hwords]
  have hdefault : ∀ p ∈ defaultPieces d.default, P p := by
    cases d.default <;> simp [defaultPieces, hwords, hl]
  have hreference : (∀ p ∈ referencePieces d.references, P p) ↔
      ∀ r ∈ d.references, P (.target r.1) ∧ P (.target r.2) := by
    cases d.references <;> simp [referencePieces, hwords]
  have hstart : (∀ p ∈ [.fixed "  ", .name d.name, .fixed " ", .fixed d.storage.text], P p) ↔
      P (.name d.name) := by
    simp [hwords, hstorage]
  simp only [pieces, List.forall_mem_append, hstart, hreference]
  constructor
  · rintro ⟨⟨⟨⟨hn, -⟩, -⟩, -⟩, hr⟩
    exact ⟨hn, hr⟩
  · rintro ⟨hn, hr⟩
    exact ⟨⟨⟨⟨hn, hkey⟩, hnull⟩, hdefault⟩, hr⟩

theorem Table.forall_pieces (t : Table) : (∀ p ∈ t.pieces, P p) ↔
    P (.name t.name) ∧ ∀ d ∈ t.definitions,
      P (.name d.name) ∧ ∀ r ∈ d.references, P (.target r.1) ∧ P (.target r.2) := by
  have hwords : P (.fixed "CREATE TABLE ") ∧ P (.fixed " (\n") ∧ P (.fixed ",\n") ∧
      P (.fixed "\n);") := by
    refine ⟨hf _ ?_, hf _ ?_, hf _ ?_, hf _ ?_⟩ <;> simp [fixedTexts]
  have hlist : (∀ p ∈ List.intercalate [.fixed ",\n"] (t.definitions.map (·.pieces)), P p) ↔
      ∀ d ∈ t.definitions, ∀ p ∈ d.pieces, P p := by
    constructor
    · intro h d hd p hp
      exact h p (mem_intercalate_of_mem (List.mem_map_of_mem hd) hp)
    · intro h p hp
      rcases mem_intercalate hp with hp | ⟨ps, hps, hp⟩
      · rw [List.mem_singleton.mp hp]
        exact hwords.2.2.1
      · obtain ⟨d, hd, rfl⟩ := List.mem_map.mp hps
        exact h d hd p hp
  have hdefinition : (∀ d ∈ t.definitions, ∀ p ∈ d.pieces, P p) ↔ ∀ d ∈ t.definitions,
      P (.name d.name) ∧ ∀ r ∈ d.references, P (.target r.1) ∧ P (.target r.2) :=
    forall₂_congr fun d _ => d.forall_pieces hf hl
  simp only [pieces, List.forall_mem_append, hlist, hdefinition]
  simp [hwords]

/-- What holds of the pieces of the statement of a table. -/
theorem forall_pieces : (∀ p ∈ pieces table cs, P p) ↔
    P (.name (Name.snake table)) ∧ (∀ c ∈ cs, P (.name (Name.snake c.name))) ∧
      ∀ c ∈ cs, ∀ r ∈ c.reference.bind (·.target?), P (.target r.1) ∧ P (.target r.2) := by
  rw [pieces, Table.forall_pieces hf hl, List.forall_mem_map, ← forall₂_and]
  rfl

end

/-! ### Which names are safe -/

theorem isPath_join {tables : List (List Char)} (hn : tables ≠ [])
    (ht : ∀ p ∈ tables, isIdentifier p = true) :
    IsPath (String.ofList (Text.join ['.'] tables)) := by
  have hdot : ∀ p ∈ tables, '.' ∉ p :=
    fun p hp => Name.not_mem_of_isIdentifier (ht p hp) (by decide)
  rw [IsPath, String.toList_ofList, Text.split_join hn hdot]
  exact ht

theorem isPath_of_isIdentifier {column : List Char} (h : isIdentifier column = true) :
    IsPath (String.ofList column) := by
  have hjoin : Text.join ['.'] [column] = column := rfl
  rw [← hjoin]
  exact isPath_join (List.cons_ne_nil column []) (by simpa using h)

theorem isPath_of_canonical {r : Column.Reference} (h : r.Canonical) :
    ∀ t ∈ r.target?, IsPath t.1 ∧ IsPath t.2 := by
  have hdefault : IsPath Column.Reference.defaultColumn := by decide
  obtain ⟨hn, ht, hc⟩ := h
  intro t htarget
  rw [Column.Reference.target?.eq_def] at htarget
  dsimp only at htarget
  split at htarget
  · cases htarget
  · cases htarget
  · rename_i table hne he
    cases he
    split at htarget <;> cases htarget
    · exact ⟨isPath_join hn ht, hdefault⟩
    · exact ⟨isPath_join hn ht, hdefault⟩
    · rename_i he
      cases he
      exact ⟨isPath_join hn ht, isPath_of_isIdentifier hc⟩

theorem createTable_eq_ok : createTable table cs = .ok text ↔
    (∀ n ∈ Column.names table cs, Name.isStatementName n.2.toList = true) ∧
      text = written (pieces table cs) := by
  rw [Column.createTable_eq, ← Column.firstRefused_eq_none, pieces, Table.written_pieces]
  cases Column.firstRefused Name.isStatementName table cs with
  | some n => simp
  | none => simp [eq_comm (a := text)]

/-- The statement of a table is made of fixed texts, names, targets and defaults. Its names are
identifiers, before and after they are spelled for their place, and its pieces are safe just if the
references of the columns name paths of identifiers, as those of a column line do. -/
theorem pieces_safe_iff (h : createTable table cs = .ok text) :
    text = written (pieces table cs) ∧
    (∀ s, .fixed s ∈ pieces table cs → s ∈ fixedTexts) ∧
    (∀ n ∈ Column.names table cs, isIdentifier n.2.toList = true) ∧
    (∀ s, .name s ∈ pieces table cs → isIdentifier s.toList = true) ∧
    ((∀ p ∈ pieces table cs, p.IsSafe) ↔
      ∀ c ∈ cs, ∀ r ∈ c.reference.bind (·.target?), IsPath r.1 ∧ IsPath r.2) ∧
    ∀ line, Column.parse line = .ok cs → ∀ p ∈ pieces table cs, p.IsSafe := by
  obtain ⟨hnames, htext⟩ := createTable_eq_ok.mp h
  have hstyle {n : String} (hn : Name.isStatementName n.toList = true) :
      isIdentifier (Name.snake n).toList = true :=
    Column.accepts_statement.isIdentifier_style .table hn
  have hall := hnames
  simp only [Column.names, List.forall_mem_cons, List.forall_mem_map] at hnames
  obtain ⟨htable, hcolumns⟩ := hnames
  have hfixed : ∀ p ∈ pieces table cs, ∀ s, p = .fixed s → s ∈ fixedTexts := by
    refine (forall_pieces ?_ ?_).mpr ⟨?_, ?_, ?_⟩ <;> simp
  have hname : ∀ p ∈ pieces table cs, ∀ s, p = .name s → isIdentifier s.toList = true := by
    refine (forall_pieces ?_ ?_).mpr ⟨?_, ?_, ?_⟩
    · simp
    · simp
    · rintro s ⟨⟩
      exact hstyle htable
    · rintro c hc s ⟨⟩
      exact hstyle (hcolumns c hc)
    · simp
  have hsafe : (∀ p ∈ pieces table cs, p.IsSafe) ↔
      ∀ c ∈ cs, ∀ r ∈ c.reference.bind (·.target?), IsPath r.1 ∧ IsPath r.2 := by
    rw [forall_pieces (fun _ _ => trivial) fun _ => trivial]
    constructor
    · rintro ⟨-, -, hr⟩
      exact hr
    · intro hr
      exact ⟨hstyle htable, fun c hc => hstyle (hcolumns c hc), hr⟩
  refine ⟨htext, fun s hs => hfixed _ hs s rfl, fun n hn => ?_, fun s hs => hname _ hs s rfl,
    hsafe, fun line hline => hsafe.mpr fun c hc r hr => ?_⟩
  · exact Name.isIdentifier_of_isStatementName (hall n hn)
  · obtain ⟨ref, href, htarget⟩ := Option.bind_eq_some_iff.mp hr
    have hcanonical := (Column.canonical_of_parse hline c hc).reference ref href
    exact isPath_of_canonical hcanonical r htarget

/-- A column with a reference that no column line could write. -/
def injected : Column where
  name := "a"
  kind := .integer
  reference := some ⟨some "users(id); DROP TABLE users; --", some "id"⟩

theorem pieces_safe_iff_order : ∃ text, createTable "OrderLines" orderColumns = .ok text ∧
    text = written (pieces "OrderLines" orderColumns) ∧
    .target "a.b" ∈ pieces "OrderLines" orderColumns ∧
    ∀ p ∈ pieces "OrderLines" orderColumns, p.IsSafe := by
  obtain ⟨text, h⟩ : ∃ text, createTable "OrderLines" orderColumns = .ok text := ⟨_, rfl⟩
  obtain ⟨htext, -, -, -, hsafe, -⟩ := pieces_safe_iff h
  exact ⟨text, h, htext, by decide +kernel, hsafe.mpr (by decide)⟩

/-- The statement of a table goes on after the table that a reference names, whatever it is. -/
theorem target_escapes :
    createTable "t" [injected] = .ok ("CREATE TABLE t (\n  a INTEGER NOT NULL REFERENCES " ++
        "users(id); DROP TABLE users; --(id) ON DELETE CASCADE\n);") ∧
      ¬ ∀ p ∈ pieces "t" [injected], p.IsSafe := by
  constructor
  · decide +kernel
  · decide +kernel

end Scaffold.Sql
