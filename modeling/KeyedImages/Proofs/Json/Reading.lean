import KeyedImages.Json.Decode
import KeyedImages.Json.Document
import KeyedImages.Proofs.Json.Spelling

/-! What is read of a document's tokens is the document, whole and with nothing behind it. -/
namespace KeyedImages.Json

namespace Document

mutual

/-- The tokens of a document. -/
def tokens : Document → List Token
  | null => [.null]
  | bool b => [.bool b]
  | number n => [.number (.ofInt n)]
  | string s => [.string (some s)]
  | array items => .openArray :: itemTokens items ++ [.closeArray]
  | object members => .openObject :: memberTokens members ++ [.closeObject]

def itemTokens : List Document → List Token
  | [] => []
  | [d] => d.tokens
  | d :: ds => d.tokens ++ .comma :: itemTokens ds

def memberTokens : List (String × Document) → List Token
  | [] => []
  | [(k, d)] => .string (some k) :: .colon :: d.tokens
  | (k, d) :: ms => .string (some k) :: .colon :: d.tokens ++ .comma :: memberTokens ms

end

mutual

/-- A document as it is read: whole. -/
def fragment : Document → Fragment
  | null => .null
  | bool b => .bool b
  | number n => .number (.ofInt n)
  | string s => .string (some s)
  | array items => .array (itemFragments items) true
  | object members => .object (memberFragments members) .closed

def itemFragments : List Document → List Fragment
  | [] => []
  | d :: ds => d.fragment :: itemFragments ds

def memberFragments : List (String × Document) → List (Option String × Fragment)
  | [] => []
  | (k, d) :: ms => (some k, d.fragment) :: memberFragments ms

end

theorem itemTokens_cons_cons (d d' : Document) (ds : List Document) :
    itemTokens (d :: d' :: ds) = d.tokens ++ .comma :: itemTokens (d' :: ds) := by
  simp [itemTokens]

theorem memberTokens_cons_cons (k : String) (d : Document) (m : String × Document)
    (ms : List (String × Document)) :
    memberTokens ((k, d) :: m :: ms) =
      .string (some k) :: .colon :: (d.tokens ++ .comma :: memberTokens (m :: ms)) := by
  simp [memberTokens]

theorem itemTokens_cons (d : Document) (ds : List Document) :
    ∃ us, itemTokens (d :: ds) = d.tokens ++ us := by
  cases ds with
  | nil => exact ⟨[], by simp [itemTokens]⟩
  | cons d' ds => exact ⟨_, itemTokens_cons_cons d d' ds⟩

theorem memberTokens_cons (k : String) (d : Document) (ms : List (String × Document)) :
    ∃ us, memberTokens ((k, d) :: ms) = .string (some k) :: us := by
  cases ms with
  | nil => exact ⟨.colon :: d.tokens, by simp [memberTokens]⟩
  | cons m ms => exact ⟨_, memberTokens_cons_cons k d m ms⟩

open Token (Apart NoNumber)

mutual

/-- No two numbers of a document stand in a row, nor the last and one behind the document. -/
theorem apart_tokens (d : Document) {ts : List Token} (h : Apart ts) (hn : NoNumber ts) :
    Apart (d.tokens ++ ts) := by
  cases d with
  | null | bool | string => exact h
  | number => exact ⟨hn, h⟩
  | array items =>
    have hclosed : Apart (.closeArray :: ts) := h
    simpa [tokens, Apart] using apart_itemTokens items hclosed trivial
  | object members =>
    have hclosed : Apart (.closeObject :: ts) := h
    simpa [tokens, Apart] using apart_memberTokens members hclosed trivial

theorem apart_itemTokens (ds : List Document) {ts : List Token} (h : Apart ts)
    (hn : NoNumber ts) : Apart (itemTokens ds ++ ts) := by
  match ds with
  | [] => exact h
  | [d] => exact apart_tokens d h hn
  | d :: d' :: ds =>
    have hrest : Apart (.comma :: (itemTokens (d' :: ds) ++ ts)) :=
      apart_itemTokens (d' :: ds) h hn
    rw [itemTokens_cons_cons, List.append_assoc]
    exact apart_tokens d hrest trivial

theorem apart_memberTokens (ms : List (String × Document)) {ts : List Token} (h : Apart ts)
    (hn : NoNumber ts) : Apart (memberTokens ms ++ ts) := by
  match ms with
  | [] => exact h
  | [(k, d)] => exact apart_tokens d h hn
  | (k, d) :: m :: ms =>
    have hrest : Apart (.comma :: (memberTokens (m :: ms) ++ ts)) :=
      apart_memberTokens (m :: ms) h hn
    rw [memberTokens_cons_cons, List.cons_append, List.cons_append, List.append_assoc]
    exact apart_tokens d hrest trivial

end

end Document

namespace Fragment

variable {frames : List Frame} {t : Token} {ts : List Token} {f : Fragment}
  {before : List Fragment} {members : List (Option String × Fragment)} {key : Option String}

/-- What is read behind a value that was completed. -/
def complete (f : Fragment) (frames : List Frame) (ts : List Token) : Fragment × List Token :=
  if frames.isEmpty then (f, ts) else ofTokens (put f frames) .commaOrEnd ts

theorem complete_items :
    complete f (.items before :: frames) ts =
      ofTokens (.items (f :: before) :: frames) .commaOrEnd ts := rfl

theorem complete_member :
    complete f (.member members key :: frames) ts =
      ofTokens (.members ((key, f) :: members) :: frames) .commaOrEnd ts := rfl

theorem ofTokens_ofToken? (h : ofToken? t = some f) :
    ofTokens frames .value (t :: ts) = complete f frames ts := by
  cases t <;> simp_all [ofToken?, ofTokens, complete]

theorem ofTokens_closeArray :
    ofTokens (.items before :: frames) .commaOrEnd (.closeArray :: ts) =
      complete (.array before.reverse true) frames ts := rfl

theorem ofTokens_nextItem :
    ofTokens (.items before :: frames) .commaOrEnd (.comma :: ts) =
      ofTokens (.items before :: frames) .value ts := rfl

theorem ofTokens_member :
    ofTokens (.members members :: frames) .key (.string key :: .colon :: ts) =
      ofTokens (.member members key :: frames) .value ts := rfl

theorem ofTokens_closeObject :
    ofTokens (.members members :: frames) .commaOrEnd (.closeObject :: ts) =
      complete (.object members.reverse .closed) frames ts := rfl

theorem ofTokens_nextMember :
    ofTokens (.members members :: frames) .commaOrEnd (.comma :: ts) =
      ofTokens (.members members :: frames) .key ts := rfl

/-- An array that is opened and not closed at once goes on with its first item. -/
theorem ofTokens_openArray (d : Document) :
    ofTokens frames .value (.openArray :: (d.tokens ++ ts)) =
      ofTokens (.items [] :: frames) .value (d.tokens ++ ts) := by
  cases d <;> rfl

/-- An object that is opened and not closed at once goes on with its first key. -/
theorem ofTokens_openObject :
    ofTokens frames .value (.openObject :: .string key :: ts) =
      ofTokens (.members [] :: frames) .key (.string key :: ts) := rfl

mutual

/-- The tokens of a document are read as the document, whatever containers are open. -/
theorem ofTokens_tokens (d : Document) (frames : List Frame) (ts : List Token) :
    ofTokens frames .value (d.tokens ++ ts) = complete d.fragment frames ts := by
  match d with
  | .null | .bool _ | .number _ | .string _ => exact ofTokens_ofToken? rfl
  | .array [] | .object [] => rfl
  | .array (d :: ds) =>
    have hitems := ofTokens_itemTokens (d :: ds) (by simp) [] frames ts
    obtain ⟨us, hus⟩ := Document.itemTokens_cons d ds
    rw [hus, List.append_assoc, ← ofTokens_openArray] at hitems
    simpa [Document.tokens, Document.fragment, hus] using hitems
  | .object ((k, d) :: ms) =>
    have hmembers := ofTokens_memberTokens ((k, d) :: ms) (by simp) [] frames ts
    obtain ⟨us, hus⟩ := Document.memberTokens_cons k d ms
    rw [hus, List.cons_append, ← ofTokens_openObject] at hmembers
    simpa [Document.tokens, Document.fragment, hus] using hmembers

/-- The items that are left are read behind those before, up to the bracket. -/
theorem ofTokens_itemTokens (ds : List Document) (hne : ds ≠ []) (before : List Fragment)
    (frames : List Frame) (ts : List Token) :
    ofTokens (.items before :: frames) .value (Document.itemTokens ds ++ .closeArray :: ts) =
      complete (.array (before.reverse ++ Document.itemFragments ds) true) frames ts := by
  match ds with
  | [] => contradiction
  | [d] =>
    rw [Document.itemTokens, ofTokens_tokens d, complete_items, ofTokens_closeArray]
    simp [Document.itemFragments]
  | d :: d' :: ds =>
    have hrest := ofTokens_itemTokens (d' :: ds) (by simp) (d.fragment :: before) frames ts
    rw [Document.itemTokens_cons_cons, List.append_assoc, ofTokens_tokens d, complete_items,
      List.cons_append, ofTokens_nextItem, hrest]
    simp [Document.itemFragments]

/-- The members that are left are read behind those before, up to the brace. -/
theorem ofTokens_memberTokens (ms : List (String × Document)) (hne : ms ≠ [])
    (members : List (Option String × Fragment)) (frames : List Frame) (ts : List Token) :
    ofTokens (.members members :: frames) .key (Document.memberTokens ms ++ .closeObject :: ts) =
      complete (.object (members.reverse ++ Document.memberFragments ms) .closed) frames ts := by
  match ms with
  | [] => contradiction
  | [(k, d)] =>
    rw [Document.memberTokens, List.cons_append, List.cons_append, ofTokens_member,
      ofTokens_tokens d, complete_member, ofTokens_closeObject]
    simp [Document.memberFragments]
  | (k, d) :: m :: ms =>
    have hrest := ofTokens_memberTokens (m :: ms) (by simp) ((some k, d.fragment) :: members)
      frames ts
    rw [Document.memberTokens_cons_cons, List.cons_append, List.cons_append, ofTokens_member,
      List.append_assoc, ofTokens_tokens d, complete_member, List.cons_append, ofTokens_nextMember,
      hrest]
    simp [Document.memberFragments]

end

/-- However a document is written, it is read whole and nothing is left. -/
theorem read_of_writes {d : Document} {cs : List Char} (h : Writes d.tokens cs) :
    read cs = (d.fragment, false) := by
  have hapart : Token.Apart (d.tokens ++ []) := d.apart_tokens trivial trivial
  rw [List.append_nil] at hapart
  have hread := ofTokens_tokens d [] []
  rw [List.append_nil] at hread
  rw [read, h.tokens_eq hapart, hread]
  rfl

end Fragment

/-- A text of a document decodes as the document does. -/
theorem decodeText_of_writes {α : Type} {d : Document} {cs : List Char}
    (decode : Fragment → Decoded α) (h : Writes d.tokens cs) :
    decodeText decode (String.ofList cs) = decode d.fragment := by
  rw [decodeText, String.toList_ofList, Fragment.read_of_writes h]
  exact bind_pure (decode d.fragment)

end KeyedImages.Json
