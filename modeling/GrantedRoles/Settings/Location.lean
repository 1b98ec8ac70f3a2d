import GrantedRoles.Settings.Environment
import GrantedRoles.Settings.Option

/-!
# Locations of files with settings

A caller may name files and directories in which settings stand. No settings stand anywhere here, so
a location shows only by what is wrong with it: it is no text, it starts at a home that nobody has,
its name is too long for the file system to look, or what stands there is no directory although one
is needed. Whose homes there are and what stands where is the machine's (`Machine`).
-/

set_option autoImplicit false

namespace GrantedRoles

open Number Text

/-- What can stand in a file system. -/
inductive Place where
  | directory
  | file
  | device
  deriving DecidableEq, Repr

/-- What stands somewhere, in words. -/
def Place.label : Place → String
  | directory => "directory"
  | file => "file"
  | device => "char device"

/-- The machine that a process runs on, as far as locations show it: the home of whoever runs the
process, the homes of the accounts, and what stands in its file system, by the names on the way from
the root. -/
structure Machine where
  ownHome : String := "/root"
  homes : List (String × String) :=
    [("root", "/root"), ("daemon", "/usr/sbin"), ("bin", "/bin"), ("sys", "/dev"), ("sync", "/bin"),
      ("games", "/usr/games"), ("man", "/var/cache/man"), ("lp", "/var/spool/lpd"),
      ("mail", "/var/mail"), ("news", "/var/spool/news"), ("uucp", "/var/spool/uucp"),
      ("proxy", "/bin"), ("www-data", "/var/www"), ("backup", "/var/backups"),
      ("list", "/var/list"), ("irc", "/run/ircd"), ("_apt", "/nonexistent"),
      ("nobody", "/nonexistent")]
  places : List (List String × Place) :=
    [(["bin"], .directory), (["boot"], .directory), (["dev"], .directory), (["etc"], .directory),
      (["home"], .directory), (["lib"], .directory), (["media"], .directory),
      (["mnt"], .directory), (["opt"], .directory), (["proc"], .directory),
      (["root"], .directory), (["run"], .directory), (["sbin"], .directory),
      (["srv"], .directory), (["sys"], .directory), (["tmp"], .directory), (["usr"], .directory),
      (["var"], .directory), (["usr", "bin"], .directory), (["usr", "lib"], .directory),
      (["usr", "local"], .directory), (["usr", "sbin"], .directory),
      (["usr", "share"], .directory), (["var", "cache"], .directory),
      (["var", "lib"], .directory), (["var", "log"], .directory), (["var", "mail"], .directory),
      (["var", "spool"], .directory), (["var", "tmp"], .directory), (["etc", "group"], .file),
      (["etc", "hostname"], .file), (["etc", "hosts"], .file), (["etc", "passwd"], .file),
      (["etc", "resolv.conf"], .file), (["dev", "null"], .device), (["dev", "random"], .device),
      (["dev", "urandom"], .device), (["dev", "zero"], .device)]

/-- A place in a file system: the slashes at its head and the names on the way to it. -/
structure Location where
  root : String
  names : List String
  deriving DecidableEq, Repr

namespace Location

/-- What a slash separates. -/
def splitSlashes : List Char → List (List Char)
  | [] => [[]]
  | '/' :: rest => [] :: splitSlashes rest
  | c :: rest =>
      match splitSlashes rest with
      | [] => [[c]]
      | name :: names => (c :: name) :: names

/-- The slashes at the head that count: two are a root of their own, any other number is one. -/
def rootOf (cs : List Char) : String :=
  match (cs.takeWhile (· == '/')).length with
  | 0 => ""
  | 2 => "//"
  | _ => "/"

/-- A location from its text; empty names and single dots lead nowhere. -/
def ofText (text : String) : Location :=
  { root := rootOf text.toList
    names := ((splitSlashes text.toList).filter fun name => name != [] && name != ['.']).map
      String.ofList }

/-- The text of a location; where nothing leads anywhere it is a dot. -/
def text (location : Location) : String :=
  if location.root = "" && location.names.isEmpty then "."
  else location.root ++ "/".intercalate location.names

/-! ## Homes -/

/-- The variable that says where the own home is. -/
def homeVariable : String := "HOME"

/-- The home of an account, of one's own if it has no name. -/
def home? (machine : Machine) (environment : Environment) (account : String) : Option String :=
  let found :=
    if account = "" then some ((environment.get? homeVariable).getD machine.ownHome)
    else machine.homes.lookup account
  found.filter fun home => home.toList.head? != some '~'

/-- A location that starts at a home, from its root on. -/
def expand (machine : Machine) (environment : Environment) (location : Location) :
    Except Failure Location :=
  match location.root, location.names with
  | "", first :: rest =>
      match first.toList with
      | '~' :: account =>
          if account.contains '\x00' then .error (.value .nulInText)
          else
            match home? machine environment (String.ofList account) with
            | none => .error .noHome
            | some home =>
                let start := ofText home
                .ok { root := if home.toList.all (· == '/') then "/" else start.root
                      names := start.names ++ rest }
      | _ => .ok location
  | _, _ => .ok location

/-! ## Looking -/

/-- The most octets of a location, with one for its end. -/
def maxOctets : Nat := 4096

/-- The most octets of one name. -/
def maxNameOctets : Nat := 255

/-- What stands where names lead from the root. -/
def placeAt? (machine : Machine) (names : List String) : Option Place :=
  if names = [] then some .directory else machine.places.lookup names

/-- A name on the way is too long. Names are looked for one by one and only in directories; two
dots lead back. The way so far is known from the root on, last name first, and else unknown. -/
def meetsLongName (machine : Machine) : Option (List String) → List String → Bool
  | _, [] => false
  | way, name :: rest =>
      if name = ".." then meetsLongName machine (way.map List.tail) rest
      else if maxNameOctets < name.utf8ByteSize then true
      else
        match way with
        | none => false
        | some names =>
            if placeAt? machine (name :: names).reverse = some .directory then
              meetsLongName machine (some (name :: names)) rest
            else false

/-- The way to where a location starts, if it is known. -/
def way (location : Location) : Option (List String) :=
  if location.root = "" then none else some []

/-- The file system refuses to look. -/
def isTooLong (machine : Machine) (location : Location) : Bool :=
  maxOctets ≤ location.text.utf8ByteSize || meetsLongName machine location.way location.names

/-- Names from the root on without those that are led back from. -/
def withoutReturns (names : List String) : List String :=
  (names.foldl (fun way name => if name = ".." then way.tail else name :: way) []).reverse

/-- Looks at a location for what stands there. -/
def look (machine : Machine) (location : Location) : Except Failure (Option Place) :=
  if location.text.toList.contains '\x00' then .ok none
  else if isTooLong machine location then .error (.longName location.text)
  else .ok (location.way.bind fun _ => placeAt? machine (withoutReturns location.names))

/-! ## What a caller names -/

/-- The location that a value names. -/
def ofValue (machine : Machine) (environment : Environment) (value : Value) :
    Except Failure Location :=
  match value.asText? with
  | some text => expand machine environment (ofText text)
  | none => .error .illTyped

/-- What names locations, one by one: a text is one name, and what has parts names one with each. -/
def namers (value : Value) : Except Failure (List Value) :=
  match value with
  | .null => .ok []
  | .list items => .ok items
  | .tuple items => .ok items
  | .dict entries => .ok (entries.map fun entry => .text entry.1)
  | .octets os _ => .ok (os.map fun octet => .int octet.toNat)
  | other => if other.asText?.isSome then .ok [other] else .error .illTyped

/-- The largest number of something. -/
def maxDepth : Int := (twoTo 63 : Int) - 1

/-- Refuses a depth that numbers nothing. -/
def checkDepth (depth : Value) : Except Failure Unit :=
  match depth with
  | .null => .ok ()
  | .bool _ => .ok ()
  | .int n => if n ≤ maxDepth then .ok () else .error (.value .notDepth)
  | .real x =>
      if x.negative || x.isZero || x.isNaN then .ok () else .error (.value .notDepth)
  | _ => .error .illTyped

/-- Looks for files, one after the other. -/
def lookForFiles (machine : Machine) (environment : Environment) (arguments : Assoc Value) :
    Except Failure Unit := do
  let named ← namers (SourceOption.files.chosen arguments)
  named.forM fun value => do
    let location ← ofValue machine environment value
    checkDepth (SourceOption.fileDepth.chosen arguments)
    let _ ← look machine location
    pure ()

/-- Refuses what is no directory of secrets. -/
def checkDirectory (place : Option Place) : Except Failure Unit :=
  match place with
  | none => .ok ()
  | some .directory => .ok ()
  | some other => .error (.source (.notDirectory other.label))

/-- Looks for directories of secrets, once it is known where all of them are. -/
def lookForSecrets (machine : Machine) (environment : Environment) (arguments : Assoc Value) :
    Except Failure Unit := do
  let named ← namers (SourceOption.secrets.chosen arguments)
  let locations ← named.mapM (ofValue machine environment)
  let places ← locations.mapM (look machine)
  places.forM checkDirectory

end Location

end GrantedRoles
