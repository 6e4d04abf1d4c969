import CourseAudit.Payload.Forms
import CourseAudit.Text.Case

/-!
The configuration of a service, read from the variables of its environment. Variables of the
service begin with one mark, in capital or small letters; others are passed over.
-/
namespace CourseAudit

namespace Config

/-- What the names of the variables begin with. -/
def mark : String := "compliance_"

/-- The variables that belong to the service, by the rest of their names in small letters. Of two
names that differ only in their letters the later one counts. -/
def ownVariables (environment : List (String × String)) : List (String × Value) :=
  environment.foldl (fun found (name, text) =>
    let lower := (Text.lower name).toList
    if mark.toList.isPrefixOf lower then
      Value.put (String.ofList (lower.drop mark.length)) (.text text) found
    else found) []

def text (key fallback : String) (rest : Payload.Fields) : Payload.Fields :=
  .cons key [] (some (.text fallback)) .text rest

/-- A count of at least one. -/
def count (key : String) (fallback : Int) (rest : Payload.Fields) : Payload.Fields :=
  .cons key [] (some (.int fallback)) (.integer (some 1) none) rest

def fields : Payload.Fields :=
  text "env" "local" <|
  text "log_level" "info" <|
  .cons "enable_docs" [] (some (.bool true)) .flag <|
  text "institution_name" "Simple State University" <|
  text "term_name" "Fall 2025" <|
  text "term_start" "08/26/2024" <|
  text "term_end" "12/13/2024" <|
  text "syllabus_due_date" "08/19/2024" <|
  text "plan_due_date" "07/15/2024" <|
  text "total_students_lms" "12,345" <|
  text "total_students_she" "12,500" <|
  text "total_published_syllabi" "350" <|
  text "total_syllabi" "410" <|
  text "total_sections" "450" <|
  count "validation_page_size" 5 <|
  count "max_context_sections" 500 <|
  count "history_limit" 50 <|
  .cons "fixed_today" [] (some .null) (.optional .day) <|
  .cons "service_name" [] none .text <|
  .cons "port" [] none Payload.integer <|
  text "host" "0.0.0.0" <|
  .nil

end Config

/-- A configuration that has been read: every setting by its name. -/
structure Config where
  entries : List (String × Value)
deriving Repr

namespace Config

/-- The configuration of an environment. Name and port of the service are given, whatever the
environment says. -/
def read (environment : List (String × String)) (serviceName port : Value) :
    Except (List Issue) Config :=
  let given := Value.put "port" port (Value.put "service_name" serviceName
    (ownVariables environment))
  (fields.read given).map Config.mk

def setting (c : Config) (name : String) : Value := (Value.get? c.entries name).getD .null

def textOf (c : Config) (name : String) : String := ((c.setting name).asText?).getD ""

/-- The settings that are texts, with their texts. -/
def texts (c : Config) : List (String × String) :=
  c.entries.filterMap fun (name, v) => v.asText?.map (name, ·)

def countOf (c : Config) (name : String) : Int :=
  match c.setting name with
  | .int i => i
  | _ => 1

def serviceName (c : Config) : String := c.textOf "service_name"

/-- The page size of a context when a request names none. -/
def pageSize (c : Config) : Int := c.countOf "validation_page_size"

/-- The most sections that one request may bring. -/
def maxSections (c : Config) : Int := c.countOf "max_context_sections"

def historyLimit (c : Config) : Int := c.countOf "history_limit"

/-- The date that stands in for today's, when one is set. -/
def fixedToday (c : Config) : Option CivilDate :=
  match c.setting "fixed_today" with
  | .date d => some d
  | _ => none

/-- Whether the manual is shown: in a local environment, unless it is switched off. -/
def showsManual (c : Config) : Bool := (c.setting "enable_docs").isSet && c.textOf "env" == "local"

/-- The names that a log may be kept by. The last two are no levels of their own. -/
def logLevels : List String :=
  ["CRITICAL", "FATAL", "ERROR", "WARN", "WARNING", "INFO", "DEBUG", "NOTSET", "BASIC_FORMAT",
    "_STYLES"]

/-- Whether the log level is one, in capital or small letters. -/
def hasLogLevel (c : Config) : Bool :=
  logLevels.contains (String.ofList ((c.textOf "log_level").toList.flatMap Text.plainCapitals))

end Config
end CourseAudit
