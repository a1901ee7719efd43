import Stencil.Proofs.Template.Scanning

/-!
# Templates written one after the other

Where a template ends, a token may still be open: the text after it can complete what begins with
`${`, or with a `$` at the very end. A template that leaves nothing open in this way is scanned
alike whatever follows it, and what follows is scanned as if it stood alone.
-/

set_option autoImplicit false

namespace Stencil.Template

open Grammar

/-- The byte offsets at which `${` stands in a text that begins at `offset`. -/
def openings (offset : Nat) : List Char → List Nat
  | [] => []
  | character :: rest =>
    let later := openings (offset + character.utf8Size) rest
    if character = '$' ∧ rest.head? = some '\x7b' then offset :: later else later

/-- Every `${` of a template lies inside one of its tokens, and the template does not end in `$`. -/
def Settled (template : String) : Prop :=
  (∀ place ∈ openings 0 template.toList,
      ∃ found ∈ scan template, found.start ≤ place ∧ place + 2 ≤ found.stop) ∧
    template.toList.getLast? ≠ some '$'

instance : DecidablePred Settled := fun template =>
  inferInstanceAs (Decidable ((∀ place ∈ openings 0 template.toList,
    ∃ found ∈ scan template, found.start ≤ place ∧ place + 2 ≤ found.stop) ∧
      template.toList.getLast? ≠ some '$'))

/-- The same token, so many bytes later. -/
def Occurrence.shift (bytes : Nat) (occurrence : Occurrence) : Occurrence :=
  { occurrence with start := bytes + occurrence.start, stop := bytes + occurrence.stop }

/-! ## Openings -/

theorem mem_openings_cons {offset place : Nat} {character : Char} {rest : List Char}
    (member : place ∈ openings (offset + character.utf8Size) rest) :
    place ∈ openings offset (character :: rest) := by
  simp only [openings]
  split
  · exact List.mem_cons_of_mem offset member
  · exact member

theorem mem_openings_append {offset place : Nat} {left right : List Char}
    (member : place ∈ openings (offset + byteLength left) right) :
    place ∈ openings offset (left ++ right) := by
  induction left generalizing offset with
  | nil => exact member
  | cons character rest ih =>
    apply mem_openings_cons
    apply ih
    simpa only [byteLength, Nat.add_assoc] using member

private theorem le_of_mem_openings {offset place : Nat} {text : List Char}
    (member : place ∈ openings offset text) : offset ≤ place := by
  induction text generalizing offset with
  | nil => cases member
  | cons character rest ih =>
    have later : place ∈ openings (offset + character.utf8Size) rest → offset ≤ place :=
      fun among => Nat.le_of_add_right_le (ih among)
    simp only [openings] at member
    split at member
    · rcases List.mem_cons.mp member with rfl | among
      · exact Nat.le_refl place
      · exact later among
    · exact later member

private theorem mem_openings_self {offset : Nat} {rest : List Char} :
    offset ∈ openings offset ('$' :: '\x7b' :: rest) := by
  simp [openings]

/-! ## Pieces -/

/-- A text leaves nothing open, told from its pieces: what stands inside a token is the whole of
`${`, so it is enough that its first character does. -/
def Sealed (offset : Nat) (text : List Char) (cut : List Piece) : Prop :=
  (∀ place ∈ openings offset text,
      ∃ found ∈ occurrences offset cut, found.start ≤ place ∧ place < found.stop) ∧
    text.getLast? ≠ some '$'

private theorem Settled.sealed {template : String} (settled : Settled template) :
    Sealed 0 template.toList (pieces template.toList) := by
  obtain ⟨inside, ends⟩ := settled
  refine ⟨fun place member => ?_, ends⟩
  obtain ⟨found, among, starts, stops⟩ := inside place member
  exact ⟨found, among, starts, by omega⟩

private theorem getLast?_ne_of_append {left right : List Char}
    (ends : (left ++ right).getLast? ≠ some '$') : right.getLast? ≠ some '$' := by
  intro last
  simp [List.getLast?_append, last] at ends

namespace Sealed

variable {offset : Nat} {rest : List Char} {cut : List Piece}

private theorem plain {character : Char}
    (closed : Sealed offset (character :: rest) (.plain character :: cut)) :
    Sealed (offset + character.utf8Size) rest cut := by
  obtain ⟨inside, ends⟩ := closed
  refine ⟨fun place member => ?_, @getLast?_ne_of_append [character] rest ends⟩
  exact inside place (mem_openings_cons member)

private theorem token {written : List Char} {token : Token}
    (closed : Sealed offset (written ++ rest) (.token written token :: cut)) :
    Sealed (offset + byteLength written) rest cut := by
  obtain ⟨inside, ends⟩ := closed
  refine ⟨fun place member => ?_, getLast?_ne_of_append ends⟩
  obtain ⟨found, among, starts, stops⟩ := inside place (mem_openings_append member)
  -- The first token ends before the rest begins, so it does not reach an opening there.
  rcases List.mem_cons.mp among with rfl | later
  · have beyond := le_of_mem_openings member
    exact absurd stops (Nat.not_lt.mpr beyond)
  · exact ⟨found, later, starts, stops⟩

/-- No word begins at a plain character, also when more text follows. -/
private theorem ne_word {character : Char} (cuts : Cut rest cut)
    (closed : Sealed offset (character :: rest) (.plain character :: cut)) (right : List Char)
    (word : Word Quotation) (after : List Char) :
    character :: (rest ++ right) ≠ word.written ++ after := by
  intro split
  simp only [Word.written, List.cons_append, List.cons.injEq] at split
  obtain ⟨rfl, following⟩ := split
  obtain ⟨inside, ends⟩ := closed
  cases rest with
  | nil => exact ends rfl
  | cons next rest =>
    obtain ⟨rfl, -⟩ := List.cons.inj following
    obtain ⟨found, among, starts, stops⟩ := inside offset mem_openings_self
    have later := cuts.le_start (offset + '$'.utf8Size) found among
    have size := '$'.utf8Size_pos
    omega

end Sealed

theorem Cut.append {left right : List Char} {cut others : List Piece} (cuts : Cut left cut)
    (cutsOthers : Cut right others) {offset : Nat} (closed : Sealed offset left cut) :
    Cut (left ++ right) (cut ++ others) := by
  induction cuts generalizing offset with
  | done => exact cutsOthers
  | plain _ cuts ih => exact .plain (closed.ne_word cuts right) (ih closed.plain)
  | token word _ ih =>
    rw [List.append_assoc]
    exact .token word (ih closed.token)

theorem Settled.pieces_append {left : String} (settled : Settled left) (right : String) :
    pieces (left ++ right).toList = pieces left.toList ++ pieces right.toList := by
  have cuts := (cut_pieces left.toList).append (cut_pieces right.toList) settled.sealed
  rw [String.toList_append, cuts.eq_pieces]

/-! ## Occurrences -/

private theorem occurrences_shift (bytes offset : Nat) (cut : List Piece) :
    occurrences (bytes + offset) cut = (occurrences offset cut).map (Occurrence.shift bytes) := by
  induction cut generalizing offset with
  | nil => rfl
  | cons piece rest ih =>
    cases piece <;> simp [occurrences, Occurrence.shift, Nat.add_assoc, ih]

theorem occurrences_append (offset : Nat) (cut others : List Piece) :
    occurrences offset (cut ++ others) =
      occurrences offset cut ++
        occurrences (offset + byteLength (cut.flatMap Piece.written)) others := by
  induction cut generalizing offset with
  | nil => rfl
  | cons piece rest ih =>
    cases piece <;>
      simp [occurrences, Piece.written, byteLength, byteLength_append, Nat.add_assoc, ih]

/-- What follows a settled template is scanned as if it stood alone. -/
theorem Settled.scan_append {left : String} (settled : Settled left) (right : String) :
    scan (left ++ right) =
      scan left ++ (scan right).map (Occurrence.shift left.utf8ByteSize) := by
  have written := (cut_pieces left.toList).flatMap_written
  calc
    scan (left ++ right) = occurrences 0 (pieces left.toList ++ pieces right.toList) := by
      rw [scan, settled.pieces_append]
    _ = scan left ++ occurrences (left.utf8ByteSize + 0) (pieces right.toList) := by
      simp only [occurrences_append, written, byteLength_toList, Nat.zero_add, Nat.add_zero, scan]
    _ = scan left ++ (scan right).map (Occurrence.shift left.utf8ByteSize) := by
      rw [occurrences_shift, scan, scan]

end Stencil.Template
