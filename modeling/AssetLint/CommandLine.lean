import AssetLint.Run

/-!
The command line. Arguments are read from left to right, and the first that settles the answer
wins: a request for the version or for help, or an argument that cannot be. Flags and options
are given at most once and written in full; a lone `--` ends them.
-/
namespace AssetLint.CommandLine

/-- One argument by its form. -/
inductive Word where
  /-- Two dashes alone. -/
  | endOfOptions
  | long (name : String) (attached : Option String)
  | short (letters : List Char)
  | value (text : String)
  deriving DecidableEq, Repr

def Word.ofText (text : String) : Word :=
  match text.toList with
  | ['-', '-'] => .endOfOptions
  | '-' :: '-' :: rest =>
    match rest.dropWhile (· ≠ '=') with
    | '=' :: attached =>
      .long (String.ofList (rest.takeWhile (· ≠ '='))) (some (String.ofList attached))
    | _ => .long (String.ofList rest) none
  | '-' :: letter :: letters => .short (letter :: letters)
  | _ => .value text

/-- What an invocation asks for. -/
inductive Request where
  | run (options : Options)
  | version
  | help
  | misuse
  deriving DecidableEq, Repr

inductive Flag where
  | fix
  | verbose
  | json
  deriving DecidableEq, Repr

/-- Options that take a path. -/
inductive Setting where
  | root
  | config
  deriving DecidableEq, Repr

/-- What a long name stands for. -/
inductive Name where
  | flag (flag : Flag)
  | setting (setting : Setting)
  | answer (request : Request)
  deriving DecidableEq, Repr

def names : List (String × Name) :=
  [("fix", .flag .fix), ("verbose", .flag .verbose), ("json", .flag .json),
    ("root", .setting .root), ("config", .setting .config),
    ("help", .answer .help), ("version", .answer .version)]

/-- What has been read so far. -/
structure Draft where
  flags : List Flag := []
  settings : List (Setting × Path) := []
  paths : List Path := []

namespace Draft

def withFlag (draft : Draft) (flag : Flag) : Option Draft :=
  if flag ∈ draft.flags then none else some { draft with flags := flag :: draft.flags }

def setting? (draft : Draft) (setting : Setting) : Option Path :=
  draft.settings.lookup setting

def withSetting (draft : Draft) (setting : Setting) (text : String) : Option Draft :=
  if text.isEmpty || (draft.setting? setting).isSome then none
  else some { draft with settings := (setting, ⟨text⟩) :: draft.settings }

def withPath (draft : Draft) (text : String) : Option Draft :=
  if text.isEmpty then none else some { draft with paths := draft.paths ++ [⟨text⟩] }

def options (draft : Draft) : Options :=
  { fix := Flag.fix ∈ draft.flags
    verbose := Flag.verbose ∈ draft.flags
    json := Flag.json ∈ draft.flags
    root := (draft.setting? .root).getD ⟨"."⟩
    config := draft.setting? .config
    paths := draft.paths }

end Draft

/-- Every further argument is a path. -/
def readPaths (draft : Draft) (arguments : List String) : Request :=
  match arguments.foldlM Draft.withPath draft with
  | some draft => .run draft.options
  | none => .misuse

/-- Only the first of several letters counts, because no letter stands for a flag. -/
def readLetters : List Char → Request
  | 'h' :: _ => .help
  | 'V' :: _ => .version
  | _ => .misuse

def read (draft : Draft) : List String → Request
  | [] => .run draft.options
  | argument :: rest =>
    match Word.ofText argument with
    | .endOfOptions => readPaths draft rest
    | .short letters => readLetters letters
    | .value text =>
      match draft.withPath text with
      | some draft => read draft rest
      | none => .misuse
    | .long name attached =>
      match names.lookup name, attached with
      | some (.flag flag), none =>
        match draft.withFlag flag with
        | some draft => read draft rest
        | none => .misuse
      | some (.answer request), none => request
      | some (.setting setting), some text =>
        match draft.withSetting setting text with
        | some draft => read draft rest
        | none => .misuse
      | some (.setting setting), none =>
        match rest with
        | [] => .misuse
        | next :: rest =>
          match Word.ofText next with
          | .value text =>
            match draft.withSetting setting text with
            | some draft => read draft rest
            | none => .misuse
          | _ => .misuse
      | _, _ => .misuse

def versionText : String := "acde 0.1.0\n"

def helpText : String :=
  String.join [
    "Usage: acde [OPTIONS] [PATH]...\n",
    "\n",
    "  --fix            accepted without effect\n",
    "  --verbose        print a line before each asset type\n",
    "  --json           print the summary as JSON\n",
    "  --root <DIR>     directory that holds the asset directories [default: .]\n",
    "  --config <FILE>  registry file in place of the built-in asset types\n",
    "  -h, --help       print this text\n",
    "  -V, --version    print the version\n"]

/-- What an invocation ends with. -/
structure Answer where
  code : Nat
  output : List UInt8
  /-- A message for the user that is no part of the output. -/
  complaint : Option String := none
  deriving DecidableEq, Repr

def failed : Nat := 2

def bytes (text : String) : List UInt8 :=
  text.toUTF8.data.toList

def execute (fs : FileSystem) (arguments : List String) : Answer :=
  match read {} arguments with
  | .version => ⟨0, bytes versionText, none⟩
  | .help => ⟨0, bytes helpText, none⟩
  | .misuse => ⟨failed, [], some helpText⟩
  | .run options =>
    let result := options.run fs {}
    match result.status with
    | .ok code => ⟨code, result.sink.written, none⟩
    | .error error => ⟨failed, result.sink.written, some (error.message ++ "\n")⟩

end AssetLint.CommandLine
