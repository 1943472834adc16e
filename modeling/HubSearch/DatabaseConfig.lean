/-
The configuration file of the database across releases. Each release generates the file anew; the
user's settings stand in an overlay of their own and are appended to what is generated. Before there
was an overlay users edited the file itself: lines of it that no release has generated are moved into
the overlay once.
-/
import HubSearch.Object.ConfigMap
import HubSearch.Text.Blank
import HubSearch.Text.Lines

namespace HubSearch.DatabaseConfig

/-- The key of the file that the database reads. -/
def baseKey : String := "postgresql.conf"

/-- The key of the user's settings. -/
def overlayKey : String := "postgresql-custom.conf"

/-- The first line of an overlay that was moved out of an edited file. -/
def migrationHeader : List Char := "# Custom configuration migrated from postgresql.conf".toList

/-! ## The files of the releases -/

/-- The file that this release generates. -/
def template : String :=
  "ssl = 'on'\n" ++
  "ssl_cert_file = '/sslcert/tls.crt'\n" ++
  "ssl_key_file = '/sslcert/tls.key'\n" ++
  "listen_addresses = '*'\n" ++
  "max_connections = 200\n" ++
  "shared_buffers = 1GB\n" ++
  "effective_cache_size = 2GB\n" ++
  "work_mem = 16MB\n" ++
  "max_parallel_workers_per_gather = 0\n" ++
  "statement_timeout = '60000'\n"

/-- The files that earlier releases generated. -/
def priorTemplates : List String :=
  ["ssl = 'on'\n" ++
    "ssl_cert_file = '/sslcert/tls.crt'\n" ++
    "ssl_key_file = '/sslcert/tls.key'\n" ++
    "listen_addresses = '*'\n" ++
    "max_connections = 200\n" ++
    "shared_buffers = 64MB\n" ++
    "effective_cache_size = 128MB\n" ++
    "work_mem = 16MB\n",
    "ssl = 'on'\n" ++
    "ssl_cert_file = '/sslcert/tls.crt'\n" ++
    "ssl_key_file = '/sslcert/tls.key'\n" ++
    "listen_addresses = '*'\n" ++
    "max_connections = 200\n" ++
    "shared_buffers = 1GB\n" ++
    "effective_cache_size = 2GB\n" ++
    "work_mem = 16MB\n" ++
    "max_parallel_workers_per_gather = 0\n"]

/-! ## Lines -/

/-- The lines of a file without the blanks around them. -/
def trimmedLines (file : List Char) : List (List Char) := (lines file).map trim

/-- The trimmed lines that are not empty. -/
def settingLines (file : List Char) : List (List Char) := (trimmedLines file).filter (· ≠ [])

/-- Whether every setting line of an overlay is a whole line of the generated file. -/
def isCovered (overlay generated : List Char) : Bool :=
  (settingLines overlay).all fun l => (trimmedLines generated).contains l

/-- The lines of a file edited in place that are in no generated one, each once, in the order of their
first occurrence. -/
def ownLines (base generated : List Char) (known : List (List Char)) : List (List Char) :=
  let generatedLines := (known ++ [generated]).flatMap trimmedLines
  ((settingLines base).filter fun l => l ≠ migrationHeader && !generatedLines.contains l).eraseDups

/-! ## Overlays -/

/-- The overlay for the user's lines of a file that was edited in place. There is none when the file is
blank, is as some release generated it, or has no line of its own. -/
def migrated? (base generated : List Char) (known : List (List Char)) : Option (List Char) :=
  let file := trim base
  if file = [] ∨ file = trim generated ∨ file ∈ known.map trim then none
  else
    match ownLines file generated known with
    | [] => none
    | own => some (migrationHeader ++ '\n' :: joinLines own ++ ['\n'])

/-- The overlay to go on with: the one that is there unless it is blank, else the one that has to be
moved out of the base. -/
def overlay? (overlay base generated : List Char) (known : List (List Char)) : Option (List Char) :=
  if trim overlay ≠ [] then some overlay else migrated? base generated known

/-- The generated file with the overlay after it; the file alone when it has all of the overlay. -/
def combined (generated overlay : List Char) : List Char :=
  let settings := trim overlay
  if isCovered settings generated then generated else trimEnd generated ++ '\n' :: settings ++ ['\n']

/-! ## ConfigMaps -/

/-- The text under a key of a data map, empty when there is none. -/
def textAt (data : Option (Dict String)) (key : String) : List Char :=
  ((data.bind (·.get? key)).getD "").toList

/-- The fresh data with the user's settings of the live data. -/
def mergeData (live fresh : Option (Dict String)) (known : List String) : Option (Dict String) :=
  let generated := textAt fresh baseKey
  match overlay? (textAt live overlayKey) (textAt live baseKey) generated (known.map String.toList) with
  | none => fresh
  | some overlay =>
    some (((fresh.getD .empty).insert baseKey (String.ofList (combined generated overlay))).insert overlayKey
      (String.ofList overlay))

/-- The freshly generated ConfigMap with the user's settings of the live one. -/
def merge (live fresh : ConfigMap) (known : List String) : ConfigMap :=
  { fresh with data := mergeData live.data fresh.data known }

/-- A ConfigMap that holds a generated file alone. -/
def freshData (generated : String) : Dict String := .ofList [(baseKey, generated)]

end HubSearch.DatabaseConfig
