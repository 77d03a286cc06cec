import Muster.Settings.EnvFile
import Muster.Settings.Management

/-! # Loading settings

The variables of the process come first; an env file only adds to them. A file that is not found does no harm, but one
that gives a variable a value that none can have ends the process: then nothing is loaded. -/

namespace Muster.Settings

/-- The env file that is read where none is named. -/
def defaultEnvFile : String := ".env"

/-- The variables of a process with those of its env file, if there is one; `none` where the file ends the process. -/
def withEnvFile (vars : Variables) (envFile : Option String) (files : Files) : Option Variables :=
  match files.find? (envFile.getD defaultEnvFile) with
  | some content => EnvFile.extend vars content
  | none => some vars

/-- The settings of a management node with these variables and files; `none` where the env file ends the process. -/
def loadManagement (vars : Variables) (envFile : Option String) (files : Files) :
    Option (Except SettingsError Management) :=
  (withEnvFile vars envFile files).map Management.ofVariables

/-- The settings of a worker that variables make. -/
def Worker.ofVariables (vars : Variables) : Except SettingsError Worker :=
  (ofVariables? vars).elim (.error .invalidWorker) .ok

/-- The settings of a worker with these variables and files; `none` where the env file ends the process. -/
def loadWorker (vars : Variables) (envFile : Option String) (files : Files) : Option (Except SettingsError Worker) :=
  (withEnvFile vars envFile files).map Worker.ofVariables

end Muster.Settings
