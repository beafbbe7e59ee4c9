import DocLint.Diagnostic
import DocLint.Glob.Parser
import DocLint.Properties
import DocLint.Text.Case

/-!
# Build manifests

A build manifest is a property file that lists what is packaged. Documentation must not be packaged,
and files that are needed at run time must be: `check` and `checkRequired` report where the list
says otherwise.
-/

namespace DocLint

/-- A build manifest: the entries of its list of packaged files and folders. -/
structure Manifest where
  includes : List Text
  deriving DecidableEq, Repr

namespace Manifest

def property : Text := "bin.includes".toList

/-- The rules on manifests. -/
inductive Rule where
  | docFile
  | docFolder
  | missingInclude
  deriving DecidableEq, Repr

def Rule.id : Rule → Text
  | .docFile => "manifest-doc-file".toList
  | .docFolder => "manifest-doc-folder".toList
  | .missingInclude => "manifest-missing-include".toList

/-- The finding of a rule about a manifest as a whole. -/
def Rule.finding (rule : Rule) (message : Text) : Diagnostic where
  rule := rule.id
  line := 0
  message := message

/-! ## Entries -/

/-- Drops `./` at the beginning, however often it stands there. -/
def dropHere : Text → Text
  | '.' :: '/' :: t => dropHere t
  | t => t

/-- The normal form of an entry: no white space around it, no `./` before it, no slash after it. -/
def normalEntry (t : Text) : Text :=
  Text.dropEnd (· == '/') (dropHere (Text.trim t))

/-- The entries of a list that is separated by commas: in normal form, each once, none empty. -/
def parseList (value : Text) : List Text :=
  Text.dedup (((Text.splitAt ',' value).map normalEntry).filter (!·.isEmpty))

/-- Reads a manifest. Only its list of packaged files counts. -/
def parse (t : Text) : Manifest :=
  ⟨parseList ((Properties.value? t property).getD [])⟩

/-! ## Documentation -/

/-- Reports the documentation file and folder if they are packaged. -/
def check (m : Manifest) (docFile docFolder : Text) : List Diagnostic :=
  let folder := normalEntry docFolder
  (if m.includes.any (Text.sameIgnoringAsciiCase · docFile) then
    [Rule.docFile.finding (Text.toUpper docFile ++ " file must not be added to the ".toList ++
      property ++ " property".toList)]
    else []) ++
  (if !folder.isEmpty && m.includes.contains folder then
    [Rule.docFolder.finding ("The ".toList ++ folder ++ " folder must not be added to the ".toList ++
      property ++ " property".toList)]
    else [])

/-! ## Required files -/

/-- Whether an entry names a path or a folder above it. -/
def covers (entry path : Text) : Bool :=
  match Text.after? entry path with
  | some [] => true
  | some (c :: _) => c == '/'
  | none => false

/-- Whether an entry is a glob for paths. -/
def isWild (entry : Text) : Bool :=
  entry.any fun c => c == '*' || c == '?' || c == '['

/-- Whether an entry is a glob that a path matches. A wildcard stays within a folder, and an entry
that is no glob matches nothing. -/
def globCovers (entry path : Text) : Bool :=
  isWild entry &&
    match Glob.parse false entry with
    | .ok g => g.accepts path
    | .error _ => false

def includesPath (m : Manifest) (path : Text) : Bool :=
  m.includes.any (covers · path) || m.includes.any (globCovers · path)

/-- The entry that packages a path with everything beside it: its topmost folder, if it has one. -/
def suggestedEntry (path : Text) : Text :=
  if path.contains '/' then path.takeWhile (· != '/') ++ ['/'] else path

def missingMessage (name path : Text) : Text :=
  "The file ".toList ++ path ++ " isn't included in the ".toList ++ name ++
    " file. Good approach is to include all files by adding `".toList ++ suggestedEntry path ++
    "` value to the ".toList ++ property ++ " property.".toList

/-- Reports the paths that are not packaged, for a manifest of the given name. -/
def checkRequired (m : Manifest) (name : Text) (paths : List Text) : List Diagnostic :=
  (paths.filter fun p => !m.includesPath p).map fun p =>
    Rule.missingInclude.finding (missingMessage name p)

end Manifest

end DocLint
