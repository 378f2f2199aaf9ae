import ErasedBridges.Config.Basic
import ErasedBridges.Config.LogFilter.Directive

/-!
# Which events are logged

A filter is a set of directives, of which the one that says most comes first. Two directives for
the same events do not stand beside each other. Those that an event alone decides are listed
before those for which spans are followed, and one that is both is in both lists.
-/

namespace ErasedBridges

abbrev LogFilter := List LogDirective

namespace LogFilter

def insert (d : LogDirective) (f : LogFilter) : LogFilter :=
  let others := f.filter fun e => d.compare e != .eq
  others.takeWhile (fun e => d.compare e == .lt) ++
    d :: others.dropWhile (fun e => d.compare e == .lt)

def parse? (s : Text) : Option LogFilter := do
  let directives ← ((Text.split (· == ',') s).filter (!·.isEmpty)).mapM LogDirective.parse?
  return directives.foldl (fun f d => insert d f) []

def shown (f : LogFilter) : Text :=
  Text.join [','] ((f.filter (·.isStatic) ++ f.filter (·.isDynamic)).map LogDirective.shown)

end LogFilter

namespace Logging

/-- Levels are taken in any case, and `warning` is one of them. -/
def normalLevel (l : Logging) : Text :=
  let trimmed := Text.trim l.level
  let lower := trimmed.map Char.toLower
  if lower.isEmpty then "info".toList
  else if lower = "warning".toList then "warn".toList
  else if ["trace", "debug", "info", "warn", "error"].any (·.toList == lower) then lower
  else trimmed

/-- The configured filter; one that cannot be read counts as `info`. -/
def configuredFilter (l : Logging) : LogFilter :=
  (LogFilter.parse? l.normalLevel).getD [.ofLevel .info]

/-- The configured directives and those of the environment after them. Where that cannot be read,
those of the environment alone. -/
def filter (l : Logging) (environment : Option Text) : LogFilter :=
  match (environment.map Text.trim).filter (!·.isEmpty) with
  | none => l.configuredFilter
  | some env =>
    ((LogFilter.parse? (l.normalLevel ++ ',' :: env)).orElse fun _ =>
      LogFilter.parse? env).getD l.configuredFilter

end Logging
end ErasedBridges
