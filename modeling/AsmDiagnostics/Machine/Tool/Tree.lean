import AsmDiagnostics.Machine.Mode
import AsmDiagnostics.Machine.Shell.Lookup
import AsmDiagnostics.Machine.Tool.Basic

/-!
# Looking after files

Programs that make, remove, copy, move and list files and folders.
-/

namespace AsmDiagnostics.Machine.Shell

def refuse (sh : Shell) (deed : String) (path : List Char) (reason : String) : Shell :=
  sh.sayFailed (deed.toList ++ ' ' :: inQuotes path ++ ": ".toList ++ reason.toList)

def withoutSlashes (path : List Char) : List Char :=
  match (path.reverse.dropWhile (· == '/')).reverse with
  | [] => path.take 1
  | bare => bare

def lastName (path : List Char) : List Char :=
  let bare := withoutSlashes path
  if bare = ['/'] then bare else (bare.reverse.takeWhile (· != '/')).reverse

def inFolder (folder name : List Char) : List Char :=
  if folder.getLast? == some '/' then folder ++ name else folder ++ '/' :: name

def sortedNames (sh : Shell) (place : Place) : List (List Char) :=
  ((sh.machine.files.namesIn place).map Text.ofOctets).mergeSort Text.precedes

def touch : Tool := fun sh arguments =>
  let kinds := OptionKind.flags "acfhm" ++ OptionKind.values "dtr" ++
    [⟨'c', "no-create", .never⟩, ⟨'d', "date", .always⟩, ⟨'r', "reference", .always⟩]
  sh.withGiven (Given.ofArguments kinds arguments) 1 fun sh g =>
    if g.operands.isEmpty then sh.misused "missing file operand".toList 1
    else g.operands.foldl (step g) sh
where
  /-- Makes sure that one file is there. -/
  step (g : Given) (sh : Shell) (path : List Char) : Shell :=
    if (sh.standing? path).isSome || path = ['-'] then sh
    else
      match sh.target? path with
      | some place =>
          if g.has 'c' then sh else sh.withFiles (sh.machine.files.put place (.file [] false))
      | none =>
          if g.has 'c' then sh
          else if path.getLast? == some '/' then
            sh.refuse "setting times of" path (sh.problem path)
          else sh.refuse "cannot touch" path (sh.problem path)

def pathsFromBelow : Nat → Files → Place → List Char → List (List Char)
  | 0, _, _, path => [path]
  | bound + 1, files, place, path =>
      let names := ((files.namesIn place).map Text.ofOctets).mergeSort Text.precedes
      (names.flatMap fun name =>
        pathsFromBelow bound files (place ++ [Text.octets name]) (inFolder path name)) ++ [path]

/-- Removes files, and folders too when it is told so. -/
def rm : Tool := fun sh arguments =>
  let kinds := OptionKind.flags "dfiIrRv" ++
    [⟨'f', "force", .never⟩, ⟨'r', "recursive", .never⟩, ⟨'d', "dir", .never⟩,
      ⟨'v', "verbose", .never⟩, ⟨'N', "no-preserve-root", .never⟩, ⟨'i', "interactive", .sometimes⟩]
  sh.withGiven (Given.ofArguments kinds arguments) 1 fun sh g =>
    if g.operands.isEmpty then
      if g.has 'f' then sh else sh.misused "missing operand".toList 1
    else g.operands.foldl (step g) sh
where
  /-- Removes what a path leads to. -/
  step (g : Given) (sh : Shell) (path : List Char) : Shell :=
    let isDeep := g.has 'r' || g.has 'R'
    let last := lastName path
    let deed := "cannot remove"
    match sh.resolve? path with
    | none =>
        if g.has 'f' && sh.problem path == "No such file or directory" then sh
        else sh.refuse deed path (sh.problem path)
    | some place =>
        let isFolder := sh.machine.files.isFolder place
        if !isFolder then
          let done := sh.withFiles (sh.machine.files.remove place)
          if g.has 'v' then done.output ("removed ".toList ++ inQuotes path ++ ['\n']) else done
        else if !isDeep then
          if !g.has 'd' then sh.refuse deed path "Is a directory"
          else if !(sh.machine.files.namesIn place).isEmpty then
            sh.refuse deed path "Directory not empty"
          else told g [path] sh place
        else if last = ['.'] ∨ last = ['.', '.'] then
          sh.sayFailed ("refusing to remove '.' or '..' directory: skipping ".toList ++
            inQuotes path)
        else if place.isEmpty then
          (sh.sayFailed ("it is dangerous to operate recursively on ".toList ++
              inQuotes path)).sayFailed
            "use --no-preserve-root to override this failsafe".toList
        else
          told g (if g.has 'v' then pathsFromBelow 64 sh.machine.files place path else []) sh place
  /-- Removes a place, and tells about paths that are gone with it. -/
  told (g : Given) (paths : List (List Char)) (sh : Shell) (place : Place) : Shell :=
    let files := sh.machine.files
    let done := sh.withFiles (files.remove place)
    if g.has 'v' then
      done.output (paths.flatMap fun path =>
        let isFolder := (sh.resolve? path).any files.isFolder
        (if isFolder then "removed directory " else "removed ").toList ++ inQuotes path ++ ['\n'])
    else done

def rmdir : Tool := fun sh arguments =>
  let kinds := OptionKind.flags "pv" ++
    [⟨'p', "parents", .never⟩, ⟨'v', "verbose", .never⟩,
      ⟨'I', "ignore-fail-on-non-empty", .never⟩]
  sh.withGiven (Given.ofArguments kinds arguments) 1 fun sh g =>
    if g.operands.isEmpty then sh.misused "missing operand".toList 1
    else g.operands.foldl (fun sh path => step g (path.length + 1) sh path) sh
where
  /-- Removes a folder, and the ones on the way to it when it is told so. -/
  step (g : Given) : Nat → Shell → List Char → Shell
    | 0, sh, _ => sh
    | bound + 1, sh, path =>
        let sh :=
          if g.has 'v' then sh.output ("rmdir: removing directory, ".toList ++ inQuotes path ++
            ['\n'])
          else sh
        match sh.resolve? path with
        | none => sh.refuse "failed to remove" path (sh.problem path)
        | some place =>
            let files := sh.machine.files
            if !files.isFolder place then sh.refuse "failed to remove" path "Not a directory"
            else if !(files.namesIn place).isEmpty then
              if g.has 'I' then sh else sh.refuse "failed to remove" path "Directory not empty"
            else
              let done := sh.withFiles (files.remove place)
              let above := withoutSlashes
                ((withoutSlashes path).reverse.dropWhile (· != '/')).reverse
              if g.has 'p' && !above.isEmpty && above != ['/'] then step g bound done above
              else done

def mkdir : Tool := fun sh arguments =>
  let kinds := OptionKind.flags "pvZ" ++ OptionKind.values "m" ++
    [⟨'p', "parents", .never⟩, ⟨'v', "verbose", .never⟩, ⟨'m', "mode", .always⟩]
  sh.withGiven (Given.ofArguments kinds arguments) 1 fun sh g =>
    if g.operands.isEmpty then sh.misused "missing operand".toList 1
    else
      match (g.argument? 'm').filter fun mode => (Mode.ofText? 18 511 mode).isNone with
      | some mode => sh.sayFailed ("invalid mode ".toList ++ inQuotes mode)
      | none =>
          g.operands.foldl
            (fun sh path => if g.has 'p' then deep g path path.length sh else step g sh path) sh
where
  /-- Makes one folder. -/
  step (g : Given) (sh : Shell) (path : List Char) : Shell :=
    match sh.resolve? path with
    | some _ => sh.refuse "cannot create directory" path "File exists"
    | none =>
        match sh.target? (withoutSlashes path) with
        | none => sh.refuse "cannot create directory" path (sh.problem path)
        | some place =>
            let done := sh.withFiles (sh.machine.files.put place .folder)
            if g.has 'v' then
              done.output (sh.name ++ ": created directory ".toList ++ inQuotes path ++ ['\n'])
            else done
  /-- Makes the folders on the way along a path, of which so much is still to come, and the last
  one. -/
  deep (g : Given) (path : List Char) : Nat → Shell → Shell
    | 0, sh => if path.isEmpty then step g sh path else make g path true sh
    | left + 1, sh =>
        let front := path.take (path.length - (left + 1))
        let isEnd := (path[path.length - (left + 1)]?) == some '/' && !front.isEmpty &&
          front.getLast? != some '/'
        if isEnd then
          let done := make g front false sh
          if (done.resolve? front).any done.machine.files.isFolder then deep g path left done
          else done
        else deep g path left sh
  /-- Makes a folder on the way, unless it is there. -/
  make (g : Given) (path : List Char) (isLast : Bool) (sh : Shell) : Shell :=
    match sh.resolve? path with
    | some place =>
        if sh.machine.files.isFolder place then sh
        else
          sh.refuse "cannot create directory" path
            (if isLast then "File exists" else "Not a directory")
    | none => step g sh path

def chmod : Tool := fun sh arguments =>
  let isMode := fun word : List Char =>
    match word with
    | '-' :: c :: _ => "rwxXst".toList.contains c
    | _ => false
  let words := arguments.filter fun word => !isMode word
  let kinds := OptionKind.flags "Rvcf" ++
    [⟨'R', "recursive", .never⟩, ⟨'v', "verbose", .never⟩, ⟨'f', "silent", .never⟩,
      ⟨'r', "reference", .always⟩]
  sh.withGiven (Given.ofArguments kinds words) 1 fun sh g =>
    let operands := (arguments.filter isMode).take 1 ++ g.operands
    match operands with
    | [] => sh.misused "missing operand".toList 1
    | [mode] => sh.misused ("missing operand after ".toList ++ inQuotes mode) 1
    | mode :: paths =>
        if (Mode.ofText? 18 420 mode).isNone then
          sh.misused ("invalid mode: ".toList ++ inQuotes mode) 1
        else paths.foldl (step g mode) sh
where
  /-- Changes what stands at a place. -/
  change (mode : List Char) (files : Files) (place : Place) : Files :=
    match files.get? place with
    | some (.file content executable) =>
        let old := if executable then 493 else 420
        let new := (Mode.ofText? 18 old mode).getD old
        files.put place (.file content (new &&& Mode.startBits != 0))
    | _ => files
  /-- Changes what a path leads to. -/
  step (g : Given) (mode : List Char) (sh : Shell) (path : List Char) : Shell :=
    match sh.resolve? path with
    | none => if g.has 'f' then sh.withStatus 1 else sh.refuse "cannot access" path (sh.problem path)
    | some place =>
        let files := sh.machine.files
        let below := if g.has 'R' then
            (files.entries.map Prod.fst).filter fun other => place.isPrefixOf other && other != place
          else []
        sh.withFiles ((place :: below).foldl (change mode) files)

def listMark (sh : Shell) (g : Given) (place : Place) : List Char :=
  match sh.machine.files.get? place with
  | some .folder => if g.has 'F' || g.has 'p' then ['/'] else []
  | some (.file _ true) => if g.has 'F' then ['*'] else []
  | some (.program _) => if g.has 'F' then ['*'] else []
  | _ => []

def ls : Tool := fun sh arguments =>
  let kinds := OptionKind.flags "1aAbBcCdfFgGhHiklLmnNopqQrRsStuUvxXZ" ++ OptionKind.values "ITw" ++
    [⟨'a', "all", .never⟩, ⟨'A', "almost-all", .never⟩, ⟨'d', "directory", .never⟩,
      ⟨'F', "classify", .sometimes⟩, ⟨'r', "reverse", .never⟩, ⟨'R', "recursive", .never⟩,
      ⟨'K', "color", .sometimes⟩, ⟨'B', "ignore-backups", .never⟩]
  sh.withGiven (Given.ofArguments kinds arguments) 2 fun sh g =>
    let paths := if g.operands.isEmpty then [['.']] else g.operands
    let missing := paths.filter fun path => (sh.resolve? path).isNone
    let sh := missing.foldl
      (fun sh path => (sh.refuse "cannot access" path (sh.problem path)).withStatus 2) sh
    let present := arranged g ((paths.filterMap fun path =>
      (sh.resolve? path).map fun place => (path, place)).mergeSort fun a b =>
        Text.precedes a.1 b.1)
    let isFolder := fun entry : List Char × Place =>
      sh.machine.files.isFolder entry.2 && !g.has 'd'
    let files := present.filter fun entry => !isFolder entry
    let folders := present.filter isFolder
    let front := shown sh g files
    let parts := folders.flatMap fun (path, place) =>
      folderParts sh g (1 < paths.length || g.has 'R') 64 path place
    sh.output (['\n'].intercalate ((if front.isEmpty then [] else [front]) ++ parts))
where
  /-- The list the other way round, if it is wanted so. -/
  arranged (g : Given) (entries : List (List Char × Place)) : List (List Char × Place) :=
    if g.has 'r' then entries.reverse else entries
  /-- The lines of some entries. -/
  shown (sh : Shell) (g : Given) (entries : List (List Char × Place)) : List Char :=
    let names := entries.map fun (name, place) => name ++ sh.listMark g place
    if names.isEmpty then []
    else if g.has 'm' then ", ".toList.intercalate names ++ ['\n']
    else if g.has 'x' || g.has 'C' then "  ".toList.intercalate names ++ ['\n']
    else names.flatMap (· ++ ['\n'])
  /-- The lists of a folder, and of the ones below it when they are wanted. -/
  folderParts (sh : Shell) (g : Given) (isNamed : Bool) :
      Nat → List Char → Place → List (List Char)
    | 0, _, _ => []
    | bound + 1, path, place =>
        let isAll := g.has 'a' || g.has 'f'
        let names := sh.sortedNames place
        let names := if isAll || g.has 'A' then names else
          names.filter fun name => name.head? != some '.'
        let own := names.map fun name => (name, place ++ [Text.octets name])
        let above := [(['.'], place), (['.', '.'], place.dropLast)]
        let entries := arranged g ((if isAll then above else []) ++ own)
        let title := if isNamed then path ++ [':', '\n'] else []
        let below := if g.has 'R' then
            (arranged g own).flatMap fun (name, inner) =>
              if sh.machine.files.isFolder inner then
                folderParts sh g true bound (inFolder path name) inner
              else []
          else []
        (title ++ shown sh g entries) :: below

end AsmDiagnostics.Machine.Shell
