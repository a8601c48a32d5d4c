import AsmDiagnostics.Text.Digit

/-!
# Tables of code points

Sets of code points, and maps on them, that are too large to be told case by case. A table is an
array of closed ranges in ascending order, which is searched by halving. It is written as lines of
words, one word for each range: `3B1-3C9` is a range of hexadecimal code points, and `37F` is a
single code point.
-/

namespace AsmDiagnostics.Text

/-- A closed range of code points with a value. -/
structure CodeRange (α : Type) where
  first : Nat
  last : Nat
  value : α

abbrev CodeTable (α : Type) := Array (CodeRange α)

abbrev CodeSet := CodeTable Unit

namespace CodeTable

variable {α : Type}

/-- The range with a code point among the ranges from one index up to another. -/
def searchBetween (table : CodeTable α) (code low high : Nat) : Option (CodeRange α) :=
  if low < high then
    let middle := (low + high) / 2
    match table[middle]? with
    | none => none
    | some row =>
        if code < row.first then searchBetween table code low middle
        else if row.last < code then searchBetween table code (middle + 1) high
        else some row
  else none
termination_by high - low

def search? (table : CodeTable α) (code : Nat) : Option (CodeRange α) :=
  searchBetween table code 0 table.size

def value? (table : CodeTable α) (code : Nat) : Option α := (table.search? code).map (·.value)

def covers (table : CodeTable α) (code : Nat) : Bool := (table.search? code).isSome

end CodeTable

def addToWords (words : List (List Char)) (c : Char) : List (List Char) :=
  if c = ' ' then [] :: words
  else
    match words with
    | [] => [[c]]
    | word :: rest => (c :: word) :: rest

def wordsOf (lines : List String) : List (List Char) :=
  lines.flatMap fun line => ((line.toList.foldl addToWords []).map List.reverse).reverse

/-- The value of hexadecimal digits; no digit counts as zero. -/
def codeOf (digits : List Char) : Nat :=
  digits.foldl (fun code c => code * 16 + (hexValue? c).getD 0) 0

/-- The two ends of a range that a word names; they are equal if it names one code point. -/
def rangeOf (word : List Char) : Nat × Nat :=
  let first := word.takeWhile (· != '-')
  match word.drop (first.length + 1) with
  | [] => (codeOf first, codeOf first)
  | last => (codeOf first, codeOf last)

def rangesOf {α : Type} (value : α) (lines : List String) : List (CodeRange α) :=
  (wordsOf lines).map fun word => ⟨(rangeOf word).1, (rangeOf word).2, value⟩

def codeSet (lines : List String) : CodeSet := (rangesOf () lines).toArray

def codeTable {α : Type} (rows : List (α × List String)) : CodeTable α :=
  ((rows.flatMap fun row => rangesOf row.1 row.2).mergeSort
    fun a b => decide (a.first ≤ b.first)).toArray

end AsmDiagnostics.Text
