/-! Comments in source text. Block comments go first, so that a line comment inside one cannot hide
its end; quotes have no meaning here. -/
namespace EntitySchema.Jdl

def afterCommentEnd? : List Char → Option (List Char)
  | [] => none
  | '*' :: '/' :: r => some r
  | _ :: r => afterCommentEnd? r

theorem afterCommentEnd?_length {s r : List Char} (h : afterCommentEnd? s = some r) :
    r.length < s.length := by
  fun_induction afterCommentEnd? s with
  | case1 => simp at h
  | case2 => grind
  | case3 _ r _ ih => grind

/-- Removes every `/*` with all up to the next `*/`; one that is never closed stays. -/
def dropBlockComments : List Char → List Char
  | [] => []
  | '/' :: '*' :: r =>
    match h : afterCommentEnd? r with
    | some rest =>
      have := afterCommentEnd?_length h
      dropBlockComments rest
    | none => '/' :: '*' :: r
  | c :: r => c :: dropBlockComments r
termination_by s => s.length

def isLineBreak (c : Char) : Bool := c == '\n' || c == '\r'

/-- Removes every `//` with all up to the end of its line; `inside` tells whether one is open. -/
def dropLineCommentsFrom : Bool → List Char → List Char
  | _, [] => []
  | true, c :: r => if isLineBreak c then c :: dropLineCommentsFrom false r
    else dropLineCommentsFrom true r
  | false, '/' :: '/' :: r => dropLineCommentsFrom true r
  | false, c :: r => c :: dropLineCommentsFrom false r

def dropLineComments (s : List Char) : List Char := dropLineCommentsFrom false s

def stripComments (s : List Char) : List Char := dropLineComments (dropBlockComments s)

end EntitySchema.Jdl
