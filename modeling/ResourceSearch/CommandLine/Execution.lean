import ResourceSearch.Activation
import ResourceSearch.CommandLine.Command

/-!
# Carrying out a command

The configuration that a command works with, and the report on what it did. The arguments of an
activation override the configuration that it starts from.
-/

namespace ResourceSearch

/-- The configuration that an activation works with. -/
def ActivationArguments.configure (arguments : ActivationArguments) (config : Config) : Config :=
  let config :=
    match arguments.url with
    | some url => config.withHost url arguments.port
    | none => config
  { config with
    auth :=
      match arguments.user with
      | some user => some (.basic user (arguments.password.getD ""))
      | none => config.auth
    indexFile := arguments.indexFile.or config.indexFile }

namespace CommandLine

variable {σ : Type}

/-- The configuration to start from. -/
def baseConfig (line : CommandLine) : Run σ (Except ConfigError Config) :=
  match line.config with
  | some path => Config.load path
  | none => return .ok {}

/-- The configuration that a command works with. -/
def configure (line : CommandLine) (config : Config) : Config :=
  match line.command with
  | .activate arguments => arguments.configure config
  | .createIndices _ => config

/-- What was done, and with which configuration. -/
structure Outcome where
  config : Config
  report : Report

/-- The status with which the program ends. -/
def Outcome.exitStatus (outcome : Outcome) : Nat :=
  if outcome.report.containsError then 1 else 0

/-- Carries out a command on an engine. -/
def execute (line : CommandLine) (engine : Engine σ) : Run σ (Except ConfigError Outcome) := do
  match ← line.baseConfig with
  | .error error => return .error error
  | .ok base =>
    let config := line.configure base
    match config.validate with
    | .error error => return .error error
    | .ok () =>
      let service : Service σ := ⟨engine, config, none⟩
      let report ←
        match line.command with
        | .activate arguments => service.activate arguments.outputConfig
        | .createIndices path => service.createIndices path
      return .ok ⟨config, report⟩

end CommandLine

end ResourceSearch
