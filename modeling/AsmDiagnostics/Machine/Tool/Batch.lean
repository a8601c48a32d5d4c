import AsmDiagnostics.Machine.Tool.Basic
import AsmDiagnostics.Machine.Tool.Copying

/-!
# Commands from a list

How `xargs` makes commands out of what it reads: items between blanks, in which quotes and
backslashes have a meaning, or between characters of one kind; and so many of them in each command.
-/

namespace AsmDiagnostics.Machine.Batch

/-- An item of a list; some are the last ones on their lines. -/
structure Item where
  text : List Char
  endsLine : Bool
  deriving DecidableEq, Repr

inductive Fault where
  | openQuote (isDouble : Bool)
  deriving DecidableEq, Repr

def Fault.text : Fault → List Char
  | .openQuote isDouble =>
      ("unmatched " ++ (if isDouble then "double" else "single") ++ " quote; by default quotes are " ++
        "special to xargs unless you use the -0 option").toList

/-- The state of the reading of items: those that are complete, the latest first, and the one at
hand in reverse, if there is one. -/
structure Draft where
  done : List Item
  current? : Option (List Char)

def Draft.add (d : Draft) (c : Char) : Draft := { d with current? := some (c :: d.current?.getD []) }

def Draft.close (d : Draft) (endsLine : Bool) : Draft :=
  match d.current?, d.done with
  | some text, done => ⟨⟨text.reverse, endsLine⟩ :: done, none⟩
  | none, last :: done => if endsLine then ⟨{ last with endsLine := true } :: done, none⟩ else d
  | none, [] => d

def readItems (isLine : Bool) : Nat → Draft → List Char → Draft × Option Fault
  | 0, d, _ => (d, none)
  | _ + 1, d, [] => (d.close true, none)
  | bound + 1, d, c :: rest =>
      if c = '\n' then
        let continues := !isLine && d.current?.isNone && !d.done.isEmpty
        readItems isLine bound (if continues then d else d.close true) rest
      else if c = ' ' ∨ c = '\t' then
        if isLine && d.current?.isSome then readItems isLine bound (d.add c) rest
        else readItems isLine bound (if isLine then d else d.close false) rest
      else if c = '"' ∨ c = '\'' then
        let text := rest.takeWhile fun e => e != c && e != '\n'
        let behind := rest.drop text.length
        if behind.head? == some c then
          let begun : Draft := { d with current? := some (d.current?.getD []) }
          readItems isLine bound (text.foldl Draft.add begun) (behind.drop 1)
        else ({ d with current? := none }, some (.openQuote (c == '"')))
      else if c = '\\' then
        match rest with
        | e :: after => readItems isLine bound (d.add e) after
        | [] => readItems isLine bound (d.add c) []
      else readItems isLine bound (d.add c) rest

def items (isLine : Bool) (text : List Char) : List Item × Option Fault :=
  let (draft, fault?) := readItems isLine (text.length + 1) ⟨[], none⟩ text
  (draft.done.reverse, fault?)

def itemsBetween (separator : Char) (text : List Char) : List Item :=
  let parts := splitAll (· == separator) text
  (if parts.getLast? == some [] then parts.dropLast else parts).map fun part => ⟨part, true⟩

def replaced (bound : Nat) (old new text : List Char) : List Char :=
  match bound, text with
  | 0, _ => text
  | _, [] => []
  | bound + 1, c :: rest =>
      if !old.isEmpty && old.isPrefixOf text then
        new ++ replaced bound old new (text.drop old.length)
      else c :: replaced bound old new rest

def chunks {α : Type} (size : Nat) (all : List α) : List (List α) :=
  go all.length all
where
  /-- The lists of what is left. -/
  go : Nat → List α → List (List α)
    | 0, _ => []
    | bound + 1, all =>
        if all.isEmpty then [] else all.take (max 1 size) :: go bound (all.drop (max 1 size))

def lineGroups (count : Nat) (all : List Item) : List (List Item) :=
  let step := fun (state : List (List Item) × List Item × Nat) (item : Item) =>
    let (done, current, lines) := state
    let current := item :: current
    let lines := if item.endsLine then lines + 1 else lines
    if count ≤ lines then (current.reverse :: done, [], 0) else (done, current, lines)
  let (done, current, _) := all.foldl step ([], [], 0)
  (if current.isEmpty then done else current.reverse :: done).reverse

structure Request where
  /-- What stands between items, when it is one character. -/
  separator? : Option Char
  /-- The text in whose place each item is put. -/
  mark? : Option (List Char)
  /-- The number of items for a command. -/
  count? : Option Nat
  /-- The number of lines for a command. -/
  lines? : Option Nat
  /-- Nothing is done when there are no items. -/
  isCareful : Bool
  /-- The commands are shown. -/
  isLoud : Bool
  /-- The file that the items are in. -/
  path? : Option (List Char)
  words : List (List Char)

def separatorOf (text : List Char) : Char :=
  match text with
  | ['\\', 'n'] => '\n'
  | ['\\', 't'] => '\t'
  | ['\\', '0'] => '\x00'
  | c :: _ => c
  | [] => '\x00'

def kinds : List OptionKind :=
  OptionKind.flags "0oprtx" ++ OptionKind.values "adEILnPs" ++
    [⟨'i', "replace", .sometimes⟩, ⟨'e', "eof", .sometimes⟩, ⟨'l', "", .sometimes⟩,
      ⟨'0', "null", .never⟩, ⟨'r', "no-run-if-empty", .never⟩, ⟨'t', "verbose", .never⟩,
      ⟨'n', "max-args", .always⟩, ⟨'L', "max-lines", .always⟩, ⟨'d', "delimiter", .always⟩,
      ⟨'P', "max-procs", .always⟩, ⟨'a', "arg-file", .always⟩]

/-- Reads what is asked for; a number that is no good is told. -/
def request (g : Given) : Except (List Char) Request := do
  let number := fun letter : Char =>
    match g.argument? letter with
    | none => Except.ok none
    | some text =>
        match Numeral.ofText? false text with
        | none =>
            .error ("invalid number \"".toList ++ text ++ "\" for -".toList ++ letter ::
              " option".toList)
        | some n =>
            if n < 1 then
              .error ("value ".toList ++ text ++ " for -".toList ++ letter ::
                " option should be >= 1".toList)
            else .ok (some n.toNat)
  let count? ← number 'n'
  let lines? ← number 'L'
  let mark? := match g.last? "Ii" with
    | some 'I' => g.argument? 'I'
    | some _ => some ((g.argument? 'i').getD "\x7b\x7d".toList)
    | none => none
  let separator? := match g.last? "0d" with
    | some '0' => some '\x00'
    | some _ => (g.argument? 'd').map separatorOf
    | none => none
  return ⟨separator?, mark?, count?, if g.has 'l' then some (lines?.getD 1) else lines?, g.has 'r',
    g.has 't', g.argument? 'a', if g.operands.isEmpty then ["echo".toList] else g.operands⟩

def Request.commands (r : Request) (text : List Char) : List (List (List Char)) × Option Fault :=
  let (all, fault?) := match r.separator? with
    | some c => (itemsBetween c text, none)
    | none => items r.mark?.isSome text
  let texts := fun group : List Item => r.words ++ group.map Item.text
  let commands := match r.mark? with
    | some mark =>
        all.map fun item =>
          (r.words.take 1) ++ (r.words.drop 1).map fun word =>
            replaced (word.length + 1) mark item.text word
    | none =>
        if all.isEmpty then (if r.isCareful || fault?.isSome then [] else [r.words])
        else
          match r.count?, r.lines? with
          | some count, _ => (chunks count all).map texts
          | none, some lines => (lineGroups lines all).map texts
          | none, none => [texts all]
  (commands, fault?)

end AsmDiagnostics.Machine.Batch
