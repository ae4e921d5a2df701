/-
  Tags: the text between `<` and `>`, its name and its attributes.

  The name runs to the first blank and may be empty.  After it come attributes: a key, an equals
  sign with blanks around it allowed, and a value between two equal quotes.  No blank is needed
  after a value.  The attributes are checked from left to right and the first fault counts; a key
  that was there before is reported before its value is looked at.

  Positions count the bytes of the tag's text, the closing slash of a childless tag not included.
-/
import MediaNetwork.Markup.Entity

namespace MediaNetwork.Markup

open MediaNetwork.Text

/-- The text of a start tag between its brackets, without the closing slash. -/
structure Tag where
  content : List Char
  deriving DecidableEq, Repr

namespace Tag

/-- The name: everything before the first blank. -/
def name (t : Tag) : List Char := t.content.takeWhile fun c => !isBlank c

/-- A character that can stand inside a key, its first character aside. -/
def inKey (c : Char) : Bool := c != '=' && !isBlank c

/-- Finds the equals sign after a key, blanks before it allowed; gives the position and the text
    after it. -/
def afterEquals (total position : Nat) (cs : List Char) :
    Except AttributeFault (Nat × List Char) :=
  let blanks := byteLength (cs.takeWhile isBlank)
  match cs.dropWhile isBlank with
  | [] => .error (.equalsExpected total)
  | c :: rest =>
    if c = '=' then .ok (position + blanks + 1, rest)
    else .error (.equalsExpected (position + blanks))

/-- Finds a value after an equals sign, blanks before it allowed; gives the value as it is
    written, and the position and the text after its second quote. -/
def quotedValue (total position : Nat) (cs : List Char) :
    Except AttributeFault (List Char × Nat × List Char) :=
  let start := position + byteLength (cs.takeWhile isBlank)
  match cs.dropWhile isBlank with
  | [] => .error (.valueExpected total)
  | q :: rest =>
    if q = '"' ∨ q = '\'' then
      let value := rest.takeWhile (· != q)
      match rest.dropWhile (· != q) with
      | [] => .error (.quoteUnclosed total q)
      | _ :: after => .ok (value, start + 1 + byteLength value + 1, after)
    else .error (.quoteExpected start)

theorem length_lt_of_afterEquals {total position n : Nat} {cs rest : List Char}
    (h : afterEquals total position cs = .ok (n, rest)) : rest.length < cs.length := by
  have hle := (List.dropWhile_sublist isBlank (l := cs)).length_le
  unfold afterEquals at h
  split at h
  · cases h
  · rename_i c tail heq
    split at h
    · cases h
      rw [heq] at hle
      simp only [List.length_cons] at hle
      omega
    · cases h

theorem length_lt_of_quotedValue {total position n : Nat} {cs value rest : List Char}
    (h : quotedValue total position cs = .ok (value, n, rest)) : rest.length < cs.length := by
  have hle := (List.dropWhile_sublist isBlank (l := cs)).length_le
  unfold quotedValue at h
  split at h
  · cases h
  · rename_i q tail heq
    rw [heq] at hle
    split at h
    · have hle' := (List.dropWhile_sublist (· != q) (l := tail)).length_le
      split at h
      · cases h
      · rename_i x after heq'
        cases h
        rw [heq'] at hle'
        simp only [List.length_cons] at hle hle'
        omega
    · cases h

/-- Reads attributes from `position` on.  `seen` are the keys read so far with their positions,
    `done` the attributes read so far, backwards. -/
def attributesFrom (total position : Nat) (seen : List (List Char × Nat))
    (done : List (String × String)) (cs : List Char) :
    Except TagFault (List (String × String)) :=
  let start := position + byteLength (cs.takeWhile isBlank)
  match _hk : cs.dropWhile isBlank with
  | [] => .ok done.reverse
  | first :: more =>
    let key := first :: more.takeWhile inKey
    match _he : afterEquals total (start + byteLength key) (more.dropWhile inKey) with
    | .error fault => .error (.keys fault)
    | .ok (valueAt, afterKey) =>
      match seen.lookup key with
      | some previous => .error (.keys (.repeated start previous))
      | none =>
        match _hv : quotedValue total valueAt afterKey with
        | .error fault => .error (.keys fault)
        | .ok (value, next, rest) =>
          match unescape value with
          | .error fault => .error (.entity fault)
          | .ok text =>
            attributesFrom total next (seen ++ [(key, start)])
              ((String.ofList key, String.ofList text) :: done) rest
termination_by cs.length
decreasing_by
  have h1 := (List.dropWhile_sublist isBlank (l := cs)).length_le
  have h2 := (List.dropWhile_sublist inKey (l := more)).length_le
  have h3 := length_lt_of_afterEquals _he
  have h4 := length_lt_of_quotedValue _hv
  rw [_hk] at h1
  simp only [List.length_cons] at h1
  omega

/-- The attributes of a tag in the order they are written, keys as they are written and values
    unescaped. -/
def attributes (t : Tag) : Except TagFault (List (String × String)) :=
  attributesFrom (byteLength t.content) (byteLength t.name) [] []
    (t.content.dropWhile fun c => !isBlank c)

end Tag

end MediaNetwork.Markup
