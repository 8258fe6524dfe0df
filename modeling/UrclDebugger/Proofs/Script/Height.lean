import UrclDebugger.Proofs.Script.Acceptance
import UrclDebugger.Proofs.Script.Reading

/-!
# How high a tree can grow

The nesting limit counts levels of reading, which is not the height of what is read. The levels of a
chain are those of its deepest part or those of its suffixes, whichever are more, while its height
has both: the suffixes go on top of what they are applied to. So each level can add as much height
as there are levels below it, and the height of what is read is bounded by the triangular number of
the limit and not by the limit. A tower of lists, each with as many fields behind it as there are
levels left, is that high. The limit does bound the height where no suffix stands behind a bracket
that was closed, since there only a single token is below a suffix.
-/

namespace UrclDebugger

namespace Expr

mutual

/-- The number of nodes on the longest way down from the top. -/
def height : Expr → Nat
  | .literal _ => 1
  | .name _ => 1
  | .list items => heightOfAll items + 1
  | .map entries => heightOfEntries entries + 1
  | .index base position => max base.height position.height + 1
  | .field base _ => base.height + 1
  | .call _ arguments => heightOfAll arguments + 1
  | .negate operand => operand.height + 1

/-- The height of the highest one; zero for none. -/
def heightOfAll : List Expr → Nat
  | [] => 0
  | item :: items => max item.height (heightOfAll items)

/-- The height of the highest key or value; zero for none. -/
def heightOfEntries : List (Expr × Expr) → Nat
  | [] => 0
  | (key, value) :: entries => max (max key.height value.height) (heightOfEntries entries)

end

theorem height_pos (e : Expr) : 0 < e.height := by
  cases e <;> simp only [height] <;> omega

/-- The height that a number of levels allows: the sum of the numbers up to it. -/
def heightLimit : Nat → Nat
  | 0 => 0
  | levels + 1 => heightLimit levels + (levels + 1)

theorem heightLimit_mono {fewer levels : Nat} (le : fewer ≤ levels) :
    heightLimit fewer ≤ heightLimit levels := by
  induction le with
  | refl => exact Nat.le_refl _
  | step le ih => exact Nat.le_add_right_of_le ih

theorem heightLimit_max (one other : Nat) :
    heightLimit (max one other) = max (heightLimit one) (heightLimit other) := by
  rcases Nat.le_total one other with le | le
  · rw [Nat.max_eq_right le, Nat.max_eq_right (heightLimit_mono le)]
  · rw [Nat.max_eq_left le, Nat.max_eq_left (heightLimit_mono le)]

end Expr

open UrclDebugger.Expr

namespace Grammar

mutual

theorem Phrase.height_le {tokens : List Token} {e : Expr} {levels : Nat}
    (phrase : Phrase tokens e levels) : e.height ≤ heightLimit levels := by
  match phrase with
  | .negate inner =>
    have low := inner.height_le
    simp only [height, heightLimit]
    omega
  | .chain primary suffixes =>
    have low := primary.height_le
    have grown := suffixes.height_le
    simp only [heightLimit, heightLimit_max]
    omega
termination_by structural phrase

/-- A list or a map adds a node to what is in it, but no level. -/
theorem Primary.height_le {tokens : List Token} {e : Expr} {levels : Nat}
    (primary : Primary tokens e levels) : e.height ≤ heightLimit levels + 1 := by
  match primary with
  | .int _ => exact Nat.le_refl _
  | .text _ => exact Nat.le_refl _
  | .reserved _ => exact Nat.le_refl _
  | .name _ => exact Nat.le_refl _
  | .paren phrase => exact Nat.le_add_right_of_le phrase.height_le
  | .list listed => exact Nat.add_le_add_right listed.height_le 1
  | .map listed => exact Nat.add_le_add_right listed.height_le 1
termination_by structural primary

/-- Each item or field suffix adds a node on top of what it is applied to, or of what is in it. -/
theorem Suffixes.height_le {head chain : Expr} {tokens : List Token} {levels : Nat}
    (suffixes : Suffixes head tokens chain levels) :
    chain.height ≤ max head.height (heightLimit levels + 1) + levels := by
  match suffixes with
  | .none _ => omega
  | .item phrase others =>
    have low := phrase.height_le
    have grown := others.height_le
    simp only [height, heightLimit, heightLimit_max] at grown ⊢
    omega
  | .field others =>
    have grown := others.height_le
    simp only [height, heightLimit] at grown ⊢
    omega
  | .call listed others =>
    have low := listed.height_le
    have grown := others.height_le
    simp only [height, heightLimit_max] at grown ⊢
    omega
termination_by structural suffixes

theorem Items.height_le {tokens : List Token} {items : List Expr} {levels : Nat}
    (listed : Items tokens items levels) : heightOfAll items ≤ heightLimit levels := by
  match listed with
  | .none => exact Nat.zero_le _
  | .last phrase => exact Nat.max_le.mpr ⟨phrase.height_le, Nat.zero_le _⟩
  | .more phrase others =>
    have low := phrase.height_le
    have rest := others.height_le
    simp only [heightOfAll, heightLimit_max]
    omega
termination_by structural listed

theorem Pair.height_le {tokens : List Token} {entry : Expr × Expr} {levels : Nat}
    (pair : Pair tokens entry levels) :
    max entry.1.height entry.2.height ≤ heightLimit levels := by
  match pair with
  | .keyed key value =>
    have keyLow := key.height_le
    have valueLow := value.height_le
    simp only [heightLimit_max]
    omega
termination_by structural pair

theorem Pairs.height_le {tokens : List Token} {entries : List (Expr × Expr)} {levels : Nat}
    (listed : Pairs tokens entries levels) : heightOfEntries entries ≤ heightLimit levels := by
  match listed with
  | .none => exact Nat.zero_le _
  | .last pair => exact Nat.max_le.mpr ⟨pair.height_le, Nat.zero_le _⟩
  | .more pair others =>
    have low := pair.height_le
    have rest := others.height_le
    simp only [heightOfEntries, heightLimit_max]
    omega
termination_by structural listed

end

/-- No suffix stands behind what closes a bracket: a chain is a name or a literal with fields, and
only its last suffix can be an item or a call. -/
def Bare (tokens : List Token) : Prop :=
  ∀ first second, [first, second] <:+: tokens → first.closes = true → second.opensSuffix = false

section Bare

variable {first : Token} {one other : List Token}

theorem Bare.left (bare : Bare (one ++ other)) : Bare one :=
  fun _ _ here => bare _ _ (here.trans (List.prefix_append one other).isInfix)

theorem Bare.right (bare : Bare (one ++ other)) : Bare other :=
  fun _ _ here => bare _ _ (here.trans (List.suffix_append one other).isInfix)

theorem Bare.tail (bare : Bare (first :: other)) : Bare other :=
  fun _ _ here => bare _ _ (here.trans (List.suffix_cons first other).isInfix)

end Bare

/-- A primary expression is a single token or ends with what closes a bracket. -/
theorem Primary.atom_or_closed {tokens : List Token} {e : Expr} {levels : Nat}
    (primary : Primary tokens e levels) : (e.height = 1 ∧ levels = 0) ∨
      ∃ inner close, Token.closes close = true ∧ tokens = inner ++ [close] := by
  cases primary with
  | paren => exact .inr ⟨_ :: _, _, rfl, rfl⟩
  | list => exact .inr ⟨_ :: _, _, rfl, rfl⟩
  | map => exact .inr ⟨_ :: _, _, rfl, rfl⟩
  | _ => exact .inl ⟨rfl, rfl⟩

/-- Behind what closes a bracket there are no suffixes. -/
theorem Suffixes.none_of_bare {head chain : Expr} {tokens : List Token} {levels : Nat}
    (suffixes : Suffixes head tokens chain levels) {close : Token} (bare : Bare (close :: tokens))
    (closing : close.closes = true) : tokens = [] ∧ chain = head ∧ levels = 0 := by
  have free {first : Token} {others : List Token} (same : tokens = first :: others) :
      first.opensSuffix = false := bare close first ⟨[], others, by simp [same]⟩ closing
  cases suffixes with
  | none => exact ⟨rfl, rfl, rfl⟩
  | _ => exact absurd (free rfl) (by decide)

mutual

/-- In bare tokens every node takes a level for itself. -/
theorem Phrase.height_le_of_bare {tokens : List Token} {e : Expr} {levels : Nat}
    (phrase : Phrase tokens e levels) (bare : Bare tokens) : e.height ≤ levels := by
  match phrase with
  | .negate inner => exact Nat.succ_le_succ (inner.height_le_of_bare bare.tail)
  | .chain primary suffixes =>
    have low := primary.height_le_of_bare bare.left
    have grown := suffixes.height_le_of_bare bare.right
    -- Either the suffixes have nothing below them that took levels, or there are none.
    rcases primary.atom_or_closed with ⟨atom, levelless⟩ | ⟨inner, close, closing, rfl⟩
    · omega
    · rw [List.append_assoc] at bare
      obtain ⟨-, rfl, rfl⟩ := suffixes.none_of_bare bare.right closing
      omega
termination_by structural phrase

theorem Primary.height_le_of_bare {tokens : List Token} {e : Expr} {levels : Nat}
    (primary : Primary tokens e levels) (bare : Bare tokens) : e.height ≤ levels + 1 := by
  match primary with
  | .int _ => exact Nat.le_refl _
  | .text _ => exact Nat.le_refl _
  | .reserved _ => exact Nat.le_refl _
  | .name _ => exact Nat.le_refl _
  | .paren phrase => exact Nat.le_succ_of_le (phrase.height_le_of_bare bare.tail.left)
  | .list listed => exact Nat.succ_le_succ (listed.height_le_of_bare bare.tail.left)
  | .map listed => exact Nat.succ_le_succ (listed.height_le_of_bare bare.tail.left)
termination_by structural primary

theorem Suffixes.height_le_of_bare {head chain : Expr} {tokens : List Token} {levels : Nat}
    (suffixes : Suffixes head tokens chain levels) (bare : Bare tokens) :
    chain.height ≤ head.height + levels := by
  match suffixes with
  | .none _ => exact Nat.le_refl _
  | .item phrase others =>
    have low := phrase.height_le_of_bare bare.tail.left
    obtain ⟨-, rfl, rfl⟩ := others.none_of_bare bare.tail.right rfl
    have positive := head.height_pos
    simp only [height]
    omega
  | .field others =>
    have grown := others.height_le_of_bare bare.tail.tail
    simp only [height] at grown
    omega
  | .call listed others =>
    have low := listed.height_le_of_bare bare.tail.left
    obtain ⟨-, rfl, rfl⟩ := others.none_of_bare bare.tail.right rfl
    simp only [height]
    omega
termination_by structural suffixes

theorem Items.height_le_of_bare {tokens : List Token} {items : List Expr} {levels : Nat}
    (listed : Items tokens items levels) (bare : Bare tokens) : heightOfAll items ≤ levels := by
  match listed with
  | .none => exact Nat.zero_le _
  | .last phrase => exact Nat.max_le.mpr ⟨phrase.height_le_of_bare bare, Nat.zero_le _⟩
  | .more phrase others =>
    have low := phrase.height_le_of_bare bare.left
    have rest := others.height_le_of_bare bare.right.tail
    simp only [heightOfAll]
    omega
termination_by structural listed

theorem Pair.height_le_of_bare {tokens : List Token} {entry : Expr × Expr} {levels : Nat}
    (pair : Pair tokens entry levels) (bare : Bare tokens) :
    max entry.1.height entry.2.height ≤ levels := by
  match pair with
  | .keyed key value =>
    have keyLow := key.height_le_of_bare bare.left
    have valueLow := value.height_le_of_bare bare.right.tail
    omega
termination_by structural pair

theorem Pairs.height_le_of_bare {tokens : List Token} {entries : List (Expr × Expr)} {levels : Nat}
    (listed : Pairs tokens entries levels) (bare : Bare tokens) :
    heightOfEntries entries ≤ levels := by
  match listed with
  | .none => exact Nat.zero_le _
  | .last pair => exact Nat.max_le.mpr ⟨pair.height_le_of_bare bare, Nat.zero_le _⟩
  | .more pair others =>
    have low := pair.height_le_of_bare bare.left
    have rest := others.height_le_of_bare bare.right.tail
    simp only [heightOfEntries]
    omega
termination_by structural listed

end

/-- How high an expression is that was read from tokens. -/
structure Bounded (tokens : List Token) (e : Expr) : Prop where
  height_le : e.height ≤ heightLimit nestingLimit
  height_le_of_bare : Bare tokens → e.height ≤ nestingLimit

theorem Denotes.bounded {tokens : List Token} {e : Expr} (denotes : Denotes tokens e) :
    Bounded tokens e := by
  obtain ⟨levels, phrase, fits⟩ := denotes
  exact ⟨Nat.le_trans phrase.height_le (heightLimit_mono fits),
    fun bare => Nat.le_trans (phrase.height_le_of_bare bare) fits⟩

/-- A part of an expression that was read from some of the tokens is bounded like the whole. -/
theorem Bounded.part {read : List Token} {part whole : Expr} (bounded : Bounded read whole)
    (le : part.height ≤ whole.height) (front back : List Token) :
    Bounded (front ++ (read ++ back)) part where
  height_le := Nat.le_trans le bounded.height_le
  height_le_of_bare := fun bare => Nat.le_trans le (bounded.height_le_of_bare bare.right.left)

end Grammar

/-- The expressions that a statement evaluates. -/
def Statement.expressions : Statement → List Expr
  | .assign _ position value => position.toList ++ [value]
  | .expression e => [e]

theorem Grammar.Sentence.bounded {tokens : List Token} {statement : Statement}
    (sentence : Sentence tokens (some statement)) {e : Expr} (part : e ∈ statement.expressions) :
    Bounded tokens e := by
  have right {left right : List Token} {value : Expr} (assigned : Denotes right value) :
      Bounded (left ++ .equals :: right) value := by
    have bounded := assigned.bounded.part (Nat.le_refl _) (left ++ [.equals]) []
    simpa using bounded
  cases sentence with
  | expression denotes =>
    obtain rfl := List.mem_singleton.mp part
    exact denotes.bounded
  | assign target assigned =>
    obtain rfl := List.mem_singleton.mp part
    exact right assigned
  | assignItem target assigned =>
    rcases List.mem_cons.mp part with rfl | later
    · refine target.bounded.part ?_ [] _
      simp only [height]
      omega
    · obtain rfl := List.mem_singleton.mp later
      exact right assigned

/-!
### Towers

A tower is a name, or the list of a smaller tower with one more field suffix behind it than the
smaller one has at its top.
-/

namespace Tower

open Grammar

/-- An expression with a number of field suffixes behind it. -/
def withFields : Nat → Expr → Expr
  | 0, e => e
  | count + 1, e => withFields count (.field e "a")

def fieldTokens : Nat → List Token
  | 0 => []
  | count + 1 => .dot :: .name "a" :: fieldTokens count

def fieldText : Nat → List Char
  | 0 => []
  | count + 1 => '.' :: 'a' :: fieldText count

/-- The tower with a number of floors on top of a name. -/
def expression : Nat → Expr
  | 0 => .name "a"
  | floors + 1 => withFields (floors + 1) (.list [expression floors])

def tokens : Nat → List Token
  | 0 => [.name "a"]
  | floors + 1 => .openBracket :: (tokens floors ++ [.closeBracket]) ++ fieldTokens (floors + 1)

def characters : Nat → List Char
  | 0 => ['a']
  | floors + 1 => '[' :: (characters floors ++ ']' :: fieldText (floors + 1))

/-- The tower as a text. -/
def text (floors : Nat) : String := String.ofList (characters floors)

example : text 3 = "[[[a].a].a.a].a.a.a" := by decide

theorem height_withFields (count : Nat) (e : Expr) :
    (withFields count e).height = e.height + count := by
  induction count generalizing e with
  | zero => rfl
  | succ count ih =>
    rw [withFields, ih, height]
    omega

/-- A tower is as high as its levels allow. -/
theorem height_expression (floors : Nat) :
    (expression floors).height = heightLimit (floors + 1) := by
  induction floors with
  | zero => rfl
  | succ floors ih =>
    have limit : heightLimit (floors + 1 + 1) = heightLimit (floors + 1) + (floors + 1 + 1) := rfl
    rw [expression, height_withFields, height, heightOfAll, heightOfAll, ih, limit]
    omega

theorem suffixes_fieldTokens (count : Nat) (e : Expr) :
    Suffixes e (fieldTokens count) (withFields count e) count := by
  induction count generalizing e with
  | zero => exact .none e
  | succ count ih => exact .field (ih _)

theorem phrase_tokens (floors : Nat) : Phrase (tokens floors) (expression floors) (floors + 1) := by
  induction floors with
  | zero =>
    have free : ∀ value, ("a", value) ∉ reserved := by simp [reserved]
    exact .chain (.name free) (.none _)
  | succ floors ih =>
    have phrase := Phrase.chain (.list (.last ih)) (suffixes_fieldTokens (floors + 1) _)
    rw [Nat.max_self] at phrase
    exact phrase

theorem ends_fieldText (count : Nat) {rest : List Char}
    (ends : ∀ c ∈ rest.head?, Token.continuesName c = false) :
    ∀ c ∈ (fieldText count ++ rest).head?, Token.continuesName c = false := by
  cases count with
  | zero => exact ends
  | succ count => exact ends_of_cons rfl

theorem scan_fieldText (count : Nat) {rest : List Char}
    (ends : ∀ c ∈ rest.head?, Token.continuesName c = false) :
    Token.scan (fieldText count ++ rest) = (Token.scan rest).map (fieldTokens count ++ ·) := by
  induction count with
  | zero =>
    rw [fieldText, List.nil_append]
    rcases Token.scan rest with error | tokens <;> rfl
  | succ count ih =>
    have pieces : fieldText (count + 1) ++ rest = '.' :: (['a'] ++ (fieldText count ++ rest)) := rfl
    rw [pieces, Token.scan_punctuation rfl, Token.scan_name (by decide) (ends_fieldText count ends),
      ih]
    rcases Token.scan rest with error | tokens <;> rfl

theorem scan_characters (floors : Nat) {rest : List Char}
    (ends : ∀ c ∈ rest.head?, Token.continuesName c = false) :
    Token.scan (characters floors ++ rest) = (Token.scan rest).map (tokens floors ++ ·) := by
  induction floors generalizing rest with
  | zero => exact Token.scan_name (by decide) ends
  | succ floors ih =>
    have pieces : characters (floors + 1) ++ rest =
        '[' :: (characters floors ++ ']' :: (fieldText (floors + 1) ++ rest)) := by
      simp [characters]
    rw [pieces, Token.scan_punctuation rfl, ih (ends_of_cons rfl), Token.scan_punctuation rfl,
      scan_fieldText _ ends]
    rcases Token.scan rest with error | others
    · rfl
    · simp [tokens, Except.map]

/-- A tower within the nesting limit is read as what it is. -/
theorem parse_text {floors : Nat} (fits : floors + 1 ≤ nestingLimit) :
    Expr.parse (text floors) = .ok (expression floors) := by
  have cut : Token.ofText (text floors) = .ok (tokens floors) := by
    have scanned : Token.scan (characters floors) = .ok (tokens floors) := by
      have read := @scan_characters floors [] nofun
      rw [List.append_nil, Token.scan] at read
      simpa [Except.map] using read
    rw [Token.ofText, text, String.toList_ofList, scanned]
    rfl
  exact Expr.parse_eq_ok_iff.mpr ⟨tokens floors, cut, floors + 1, phrase_tokens floors, fits⟩

end Tower

/-- No expression that a text or a statement holds is higher than the sum of the numbers up to the
nesting limit, and none is higher than the nesting limit itself if no suffix stands behind a bracket
that was closed. -/
theorem height_of_parsed (text : String) :
    (∀ e, Expr.parse text = .ok e → ∃ tokens, Token.ofText text = .ok tokens ∧
      e.height ≤ heightLimit nestingLimit ∧ (Grammar.Bare tokens → e.height ≤ nestingLimit)) ∧
    ∀ statement, Statement.parse text = .ok (some statement) →
      ∃ tokens, Token.ofText text = .ok tokens ∧ ∀ e ∈ statement.expressions,
        e.height ≤ heightLimit nestingLimit ∧ (Grammar.Bare tokens → e.height ≤ nestingLimit) := by
  constructor
  · intro e parsed
    obtain ⟨tokens, cut, denotes⟩ := Expr.parse_eq_ok_iff.mp parsed
    exact ⟨tokens, cut, denotes.bounded.height_le, denotes.bounded.height_le_of_bare⟩
  · intro statement parsed
    obtain ⟨tokens, cut, sentence⟩ := Statement.parse_eq_ok_iff.mp parsed
    refine ⟨tokens, cut, fun e part => ?_⟩
    exact ⟨(sentence.bounded part).height_le, (sentence.bounded part).height_le_of_bare⟩

example : heightLimit nestingLimit = 8256 := by decide +kernel

/-- A tower of sixteen levels is higher than the number of levels that are allowed. -/
theorem nestingLimit_lt_height : ∃ e,
    Expr.parse (Tower.text 15) = .ok e ∧ nestingLimit < e.height := by
  refine ⟨Tower.expression 15, Tower.parse_text (by decide), ?_⟩
  rw [Tower.height_expression]
  decide

/-- A tower of as many levels as are allowed is as high as any expression. -/
theorem exists_height_eq_heightLimit :
    ∃ text e, Expr.parse text = .ok e ∧ e.height = heightLimit nestingLimit :=
  ⟨Tower.text 127, Tower.expression 127, Tower.parse_text (by decide),
    Tower.height_expression 127⟩

end UrclDebugger
