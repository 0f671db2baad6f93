import MailDispatch.Failure

/-!
# Templates

A template is a text with placeholders: a dollar sign and a name, the name possibly between braces.
Two dollar signs stand for one. It is split into pieces once, from left to right, and rendered piece
by piece, so that what a value brings in is never looked at again. A placeholder without a value
and a dollar sign before anything else stay as they are.
-/

namespace MailDispatch.Template

/-- A piece of a template. -/
inductive Piece where
  | plain (c : Char)
  | dollar
  | variable (name : List Char) (braced : Bool)
  deriving DecidableEq, Repr

/-- A piece as it stands in the template. -/
def Piece.written : Piece → List Char
  | .plain c => [c]
  | .dollar => ['$', '$']
  | .variable name true => '$' :: '\x7b' :: (name ++ ['\x7d'])
  | .variable name false => '$' :: name

/-- Whether a name may start with the character. -/
def isNameStart (c : Char) : Bool := c.isAlpha || c = '_'

/-- Whether a name may continue with the character. -/
def isNameChar (c : Char) : Bool := c.isAlphanum || c = '_'

/-- The longest name at the front of a text, and the text behind it. -/
def takeName : List Char → Option (List Char × List Char)
  | [] => none
  | c :: rest =>
    if isNameStart c then some (c :: rest.takeWhile isNameChar, rest.dropWhile isNameChar) else none

/-- What stands behind a dollar sign, if it gives the sign a meaning: another one, a name, or a
name between braces. -/
def reference : List Char → Option (Piece × List Char)
  | '$' :: rest => some (.dollar, rest)
  | '\x7b' :: rest => match takeName rest with
    | some (name, '\x7d' :: left) => some (.variable name true, left)
    | _ => none
  | s => (takeName s).map fun (name, left) ↦ (.variable name false, left)

theorem append_of_takeName {s name left : List Char} (h : takeName s = some (name, left)) :
    name ++ left = s := by
  cases s with
  | nil => simp [takeName] at h
  | cons c rest =>
    rw [takeName] at h
    split at h
    · simp only [Option.some.injEq, Prod.mk.injEq] at h
      rw [← h.1, ← h.2, List.cons_append, List.takeWhile_append_dropWhile]
    · simp at h

theorem written_of_reference {s left : List Char} {piece : Piece}
    (h : reference s = some (piece, left)) : piece.written ++ left = '$' :: s := by
  unfold reference at h
  split at h
  · simp only [Option.some.injEq, Prod.mk.injEq] at h
    rw [← h.1, ← h.2]
    rfl
  · split at h
    · next rest name left' hn =>
      simp only [Option.some.injEq, Prod.mk.injEq] at h
      rw [← h.1, ← h.2, ← append_of_takeName hn]
      simp [Piece.written]
    · simp at h
  · simp only [Option.map_eq_some_iff, Prod.mk.injEq, Prod.exists] at h
    obtain ⟨name, left', hn, h₁, h₂⟩ := h
    rw [← h₁, ← h₂, ← append_of_takeName hn]
    rfl

theorem length_of_reference {s left : List Char} {piece : Piece}
    (h : reference s = some (piece, left)) : left.length < s.length + 1 := by
  have h₁ := congrArg List.length (written_of_reference h)
  have h₂ : 0 < piece.written.length := by
    unfold Piece.written
    split <;> simp
  simp only [List.length_append, List.length_cons] at h₁ ⊢
  omega

/-- The pieces of a template. -/
def split (s : List Char) : List Piece :=
  match s with
  | [] => []
  | c :: rest =>
    if c = '$' then match h : reference rest with
      | some (piece, left) =>
        have := length_of_reference h
        piece :: split left
      | none => .plain c :: split rest
    else .plain c :: split rest
termination_by s.length
decreasing_by all_goals simp_all

/-- What a piece becomes. -/
def Piece.render (bindings : Table) : Piece → Except Failure String
  | .plain c => .ok (String.singleton c)
  | .dollar => .ok "$"
  | .variable name braced => match bindings.lookup (String.ofList name) with
    | some v => v.plain
    | none => .ok (String.ofList (Piece.variable name braced).written)

/-- A template with its placeholders filled in. -/
def render (template : String) (bindings : Table) : Except Failure String :=
  ((split template.toList).mapM (Piece.render bindings)).map String.join

end MailDispatch.Template
