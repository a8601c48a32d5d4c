import AsmDiagnostics.Machine.Tool.Tree

/-!
# Copying and moving

Programs that put files and folders to other places under new names, and programs that tell about
paths.
-/

namespace AsmDiagnostics.Machine.Shell

inductive TransferKind where
  | copy
  | move
  /-- Gives a file one more name. -/
  | link
  deriving DecidableEq

structure Transfer where
  kind : TransferKind
  /-- Folders are copied with all that is in them. -/
  isDeep : Bool
  /-- What is there already stays. -/
  keepsOld : Bool
  isLoud : Bool
  /-- A link may take the place of another file. -/
  isForced : Bool

def putPlace? (sh : Shell) (path : List Char) (isFolder : Bool) : Option Place :=
  sh.target? (if isFolder then withoutSlashes path else path)

def copied (files : Files) (old new : Place) : Files :=
  let own := files.entries.filter fun entry => old.isPrefixOf entry.1
  let start := match files.get? old with
    | some entry => if (files.get? new).isSome && entry == .folder then files else
        files.put new entry
    | none => files
  own.foldl
    (fun files (place, entry) =>
      let target := new ++ place.drop old.length
      if entry == .folder && files.isFolder target then files else files.put target entry)
    start

def transferTo (t : Transfer) (sh : Shell) (source target : List Char) : Shell :=
  let files := sh.machine.files
  match sh.resolve? source with
  | none => sh.refuse (if t.kind = .link then "failed to access" else "cannot stat") source
      (sh.problem source)
  | some place =>
      let isFolder := files.isFolder place
      if isFolder && t.kind = .copy && !t.isDeep then
        sh.sayFailed ("-r not specified; omitting directory ".toList ++ inQuotes source)
      else if isFolder && t.kind = .link then
        sh.sayFailed (source ++ ": hard link not allowed for directory".toList)
      else
        let both := inQuotes source ++ " and ".toList ++ inQuotes target
        match sh.resolve? target with
        | some found =>
            if t.keepsOld then sh
            else if t.kind = .link && !t.isForced then
              sh.refuse "failed to create hard link" target "File exists"
            else if found = place then
              sh.sayFailed (both ++ " are the same file".toList)
            else if files.isFolder found && !isFolder then
              sh.sayFailed ("cannot overwrite directory ".toList ++ inQuotes target ++
                " with non-directory".toList)
            else if isFolder && !files.isFolder found then
              sh.sayFailed ("cannot overwrite non-directory ".toList ++ inQuotes target ++
                " with directory ".toList ++ inQuotes source)
            else if isFolder && t.kind = .move && !(files.namesIn found).isEmpty then
              sh.refuse "cannot overwrite" target "Directory not empty"
            else finish t sh source target place found isFolder
        | none =>
            match sh.putPlace? target isFolder with
            | some found => finish t sh source target place found isFolder
            | none =>
                let isBare := (sh.target? (withoutSlashes target)).isSome
                let reason := if isBare then "Not a directory" else sh.problem target
                if sh.problem target == "Not a directory" then
                  sh.refuse "cannot stat" target reason
                else match t.kind with
                | .move =>
                    sh.sayFailed ("cannot move ".toList ++ inQuotes source ++ " to ".toList ++
                      inQuotes target ++ ": ".toList ++ reason.toList)
                | .link => sh.refuse "failed to create hard link" target reason
                | .copy =>
                    sh.refuse (if isFolder then "cannot create directory" else
                      "cannot create regular file") target reason
where
  /-- Puts it there. -/
  finish (t : Transfer) (sh : Shell) (source target : List Char) (place found : Place)
      (isFolder : Bool) : Shell :=
    let files := sh.machine.files
    if isFolder && place.isPrefixOf found && place != found then
      match t.kind with
      | .move =>
          sh.sayFailed ("cannot move ".toList ++ inQuotes source ++
            " to a subdirectory of itself, ".toList ++ inQuotes target)
      | _ =>
          sh.sayFailed ("cannot copy a directory, ".toList ++ inQuotes source ++
            ", into itself, ".toList ++ inQuotes target)
    else
      let put := copied files place found
      let done := sh.withFiles (if t.kind = .move then put.remove place else put)
      if !t.isLoud then done
      else
        let front := if t.kind = .move then "renamed ".toList else []
        let pairs := if isFolder && t.kind = .copy then
            ((files.entries.map Prod.fst).filter place.isPrefixOf).map fun other =>
              let rest := (other.drop place.length).map Text.ofOctets
              (rest.foldl inFolder source, rest.foldl inFolder target)
          else [(source, target)]
        done.output (pairs.flatMap fun (a, b) =>
          front ++ inQuotes a ++ (if t.kind = .link then " => " else " -> ").toList ++ inQuotes b ++
            ['\n'])

/-- Puts files to other places, as arguments say. -/
def transfer (kind : TransferKind) : Tool := fun sh arguments =>
  let kinds := OptionKind.flags "abdfilnpPrRsuvxHLTZ" ++ OptionKind.values "tS" ++
    [⟨'r', "recursive", .never⟩, ⟨'f', "force", .never⟩, ⟨'n', "no-clobber", .never⟩,
      ⟨'v', "verbose", .never⟩, ⟨'a', "archive", .never⟩, ⟨'t', "target-directory", .always⟩,
      ⟨'T', "no-target-directory", .never⟩, ⟨'s', "symbolic", .never⟩,
      ⟨'p', "preserve", .sometimes⟩, ⟨'u', "update", .sometimes⟩]
  sh.withGiven (Given.ofArguments kinds arguments) 1 fun sh g =>
    let isDeep := g.has 'r' || g.has 'R' || g.has 'a' || kind != .copy
    let t : Transfer := ⟨kind, isDeep, g.has 'n', g.has 'v', g.has 'f'⟩
    let into := fun (sh : Shell) (folder source : List Char) =>
      transferTo t sh source (inFolder folder (lastName source))
    match g.argument? 't', g.operands with
    | _, [] => sh.misused "missing file operand".toList 1
    | some folder, sources => sources.foldl (fun sh source => into sh folder source) sh
    | none, [source] =>
        if kind = .link then transferTo t sh source (lastName source)
        else sh.misused ("missing destination file operand after ".toList ++ inQuotes source) 1
    | none, [source, target] =>
        let isFolder := (sh.resolve? target).any sh.machine.files.isFolder
        if isFolder && !g.has 'T' then into sh target source
        else transferTo t sh source target
    | none, operands =>
        let target := operands.getLastD []
        match sh.resolve? target with
        | none => sh.refuse "target" target (sh.problem target)
        | some place =>
            if sh.machine.files.isFolder place then
              operands.dropLast.foldl (fun sh source => into sh target source) sh
            else sh.refuse "target" target "Not a directory"

/-- Prints the last names of paths, without an ending that is given too. -/
def basename : Tool := fun sh arguments =>
  let kinds := OptionKind.flags "az" ++ OptionKind.values "s" ++
    [⟨'a', "multiple", .never⟩, ⟨'s', "suffix", .always⟩, ⟨'z', "zero", .never⟩]
  sh.withGiven (Given.ofLeading kinds arguments) 1 fun sh g =>
    let finish := if g.has 'z' then '\x00' else '\n'
    let shown := fun (ending path : List Char) =>
      let last := lastName path
      if ending.isSuffixOf last && ending != last then last.take (last.length - ending.length)
      else last
    let isMany := g.has 'a' || g.has 's'
    match g.operands with
    | [] => sh.misused "missing operand".toList 1
    | paths =>
        if isMany then
          sh.output (paths.flatMap fun path => shown ((g.argument? 's').getD []) path ++ [finish])
        else
          match paths with
          | [path] => sh.output (shown [] path ++ [finish])
          | [path, ending] => sh.output (shown ending path ++ [finish])
          | _ => sh.misused ("extra operand ".toList ++ inQuotes (paths.getD 2 [])) 1

def dirname : Tool := fun sh arguments =>
  let kinds := OptionKind.flags "z" ++ [⟨'z', "zero", .never⟩]
  sh.withGiven (Given.ofArguments kinds arguments) 1 fun sh g =>
    let shown := fun path : List Char =>
      let above := ((withoutSlashes path).reverse.dropWhile (· != '/')).reverse
      if path.head? == some '/' && path.all (· == '/') then ['/']
      else if above.isEmpty then ['.']
      else withoutSlashes above
    if g.operands.isEmpty then sh.misused "missing operand".toList 1
    else
      sh.output (g.operands.flatMap fun path =>
        shown path ++ [if g.has 'z' then '\x00' else '\n'])

def realpath (isQuiet : Bool) : Tool := fun sh arguments =>
  let kinds := OptionKind.flags "efmLPqszn" ++
    [⟨'e', "canonicalize-existing", .never⟩, ⟨'f', "canonicalize", .never⟩,
      ⟨'m', "canonicalize-missing", .never⟩, ⟨'q', "quiet", .never⟩]
  sh.withGiven (Given.ofArguments kinds arguments) 1 fun sh g =>
    if g.operands.isEmpty then sh.misused "missing operand".toList 1
    else
      g.operands.foldl
        (fun sh path =>
          let place? := (sh.resolve? path).or
            (if g.has 'e' then none else sh.target? (withoutSlashes path))
          match place? with
          | some place => sh.output (pathText place ++ (if g.has 'n' then [] else ['\n']))
          | none =>
              if isQuiet || g.has 'q' then sh.withStatus 1
              else sh.sayFailed (path ++ ": ".toList ++ (sh.problem path).toList))
        sh

/-- Prints where paths lead to, if it is asked to follow them; no file is only a way to another. -/
def readlink : Tool := fun sh arguments =>
  let isFollowing := arguments.any fun word =>
    match word with
    | '-' :: letters => letters.any fun c => c == 'f' || c == 'e' || c == 'm'
    | _ => false
  if isFollowing then realpath true sh arguments
  else
    sh.withGiven (Given.ofArguments (OptionKind.flags "nqsvz") arguments) 1 fun sh g =>
      if g.operands.isEmpty then sh.misused "missing operand".toList 1 else sh.withStatus 1

/-- Makes a file, or a folder, with a name of its own. -/
def mktemp : Tool := fun sh arguments =>
  let kinds := OptionKind.flags "dqtu" ++ OptionKind.values "p" ++
    [⟨'d', "directory", .never⟩, ⟨'q', "quiet", .never⟩, ⟨'u', "dry-run", .never⟩,
      ⟨'p', "tmpdir", .sometimes⟩, ⟨'s', "suffix", .always⟩]
  sh.withGiven (Given.ofArguments kinds arguments) 1 fun sh g =>
    let form := g.operands.headD "tmp.XXXXXXXXXX".toList
    let last := (form.reverse.takeWhile (· == 'X')).length
    if last < 3 then sh.sayFailed ("too few X's in template ".toList ++ inQuotes form)
    else
      let number := Text.decimal sh.machine.nextProcess
      let letters := (List.replicate (last - number.length) 'a' ++ number).take last
      let name := form.take (form.length - last) ++ letters
      let isBelow := g.operands.isEmpty || g.has 't' || g.has 'p'
      let folder := ((g.argument? 'p').or (sh.valueOf? "TMPDIR".toList)).getD "/tmp".toList
      let path := if isBelow then inFolder folder name else name
      let machine := sh.machine
      let sh := { sh with machine := { machine with nextProcess := machine.nextProcess + 1 } }
      match sh.target? path with
      | none =>
          sh.sayFailed ("failed to create ".toList ++ (if g.has 'd' then "directory" else
              "file").toList ++ " via template ".toList ++
            inQuotes (if isBelow then inFolder folder form else form) ++ ": ".toList ++
            (sh.problem path).toList)
      | some place =>
          let entry := if g.has 'd' then Entry.folder else .file [] false
          (sh.withFiles (sh.machine.files.put place entry)).output (path ++ ['\n'])

def truncate : Tool := fun sh arguments =>
  let kinds := OptionKind.flags "co" ++ OptionKind.values "rs" ++
    [⟨'s', "size", .always⟩, ⟨'c', "no-create", .never⟩]
  sh.withGiven (Given.ofArguments kinds arguments) 1 fun sh g =>
    match g.argument? 's' with
    | none => sh.misused "you must specify either '--size' or '--reference'".toList 1
    | some text =>
        let sign := text.head?.filter fun c => c == '+' || c == '-'
        let digits := if sign.isSome then text.drop 1 else text
        let number := digits.takeWhile Char.isDigit
        let unit? : Option Nat :=
          match digits.drop number.length with
          | [] => some 1
          | ['K'] => some 1024
          | ['M'] => some 1048576
          | _ => none
        match number, unit? with
        | [], _ => sh.sayFailed ("Invalid number: ".toList ++ inQuotes text)
        | _, none => sh.sayFailed ("Invalid number: ".toList ++ inQuotes text)
        | _, some unit =>
            if g.operands.isEmpty then sh.misused "missing file operand".toList 1
            else
              g.operands.foldl (step g sign (Numeral.decimalValue number * unit)) sh
where
  /-- Sets the size of one file. -/
  step (g : Given) (sign : Option Char) (size : Nat) (sh : Shell) (path : List Char) : Shell :=
    let files := sh.machine.files
    match (sh.resolve? path).or (if g.has 'c' then none else sh.target? path) with
    | none =>
        if g.has 'c' then sh
        else
          sh.sayFailed ("cannot open ".toList ++ inQuotes path ++ " for writing: ".toList ++
            (sh.problem path).toList)
    | some place =>
        if files.isFolder place then
          sh.sayFailed ("cannot open ".toList ++ inQuotes path ++
            " for writing: Is a directory".toList)
        else
          let old := (files.contentAt? place).getD []
          let wanted := match sign with
            | some '+' => old.length + size
            | some '-' => old.length - size
            | _ => size
          let new := old.take wanted ++ List.replicate (wanted - old.length) 0
          sh.withFiles ((files.writeAt? place new).getD files)

end AsmDiagnostics.Machine.Shell
