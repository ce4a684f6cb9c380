import Faultline.Mapper.BuiltIn
import Faultline.Text.Quoted

/-!
The mappers of a pipeline by priority. Primary mappers are asked before fallback mappers, of either
sort those of higher priority first, and of equal priority those registered first.
-/

namespace Faultline

structure Registration where
  mapper : Mapper
  priority : Int
  isFallback : Bool

namespace Registration

def primary (mapper : Mapper) (priority : Int) : Registration := ⟨mapper, priority, false⟩

def fallback (mapper : Mapper) (priority : Int) : Registration := ⟨mapper, priority, true⟩

/-- Puts a registration before those of its own priority or less. -/
def insertByPriority (registration : Registration) : List Registration → List Registration
  | [] => [registration]
  | other :: rest =>
    if other.priority ≤ registration.priority then registration :: other :: rest
    else other :: insertByPriority registration rest

/-- The highest priority first; equal priorities keep their order. -/
def byPriority (registrations : List Registration) : List Registration :=
  registrations.foldr insertByPriority []

def defaults (sanitizer : Sanitizer) (classifier : Classifier) : List Registration :=
  let use (mapper : BuiltInMapper) := mapper.toMapper sanitizer
  [primary (use .validation) 900,
    primary (use (.structured .notFound "not_found" .notFound)) 800,
    primary (use (.structured .authorization "authorization" .forbidden)) 700,
    primary (use (.structured .rateLimit "rate_limit" .tooManyRequests)) 600,
    primary (use (.structured .domain "domain" .badRequest)) 500,
    primary (use (.database classifier)) 450,
    primary (use .remoteHttp) 300,
    primary (use .remoteTimeout) 200,
    fallback (use .appFallback) 100,
    fallback (use .unexpected) 0]

end Registration

inductive RegistryError where
  | noFallback
  deriving DecidableEq, Repr

def RegistryError.message : RegistryError → String
  | noFallback =>
    "no fallback mapper registered: at least one registration must be marked as fallback"

structure Registry where
  primary : List Registration
  fallback : List Registration
  fallback_ne_nil : fallback ≠ []

namespace Registry

def ofList (registrations : List Registration) : Except RegistryError Registry :=
  let primary := Registration.byPriority (registrations.filter (!·.isFallback))
  let fallback := Registration.byPriority (registrations.filter (·.isFallback))
  if h : fallback = [] then .error .noFallback
  else .ok ⟨primary, fallback, h⟩

def names (registrations : List Registration) : List String :=
  registrations.map (·.mapper.name)

def build (registrations : List Registration) : Recorded (Except RegistryError Registry) := do
  match ofList registrations with
  | .error e => return .error e
  | .ok registry =>
    Recorded.log .debug "mapper registry built"
      [("primary", .text (Text.quotedList (names registry.primary))),
        ("fallback", .text (Text.quotedList (names registry.fallback)))]
    return .ok registry

def mappers (registry : Registry) : List Mapper :=
  (registry.primary ++ registry.fallback).map Registration.mapper

def tryResolve (registry : Registry) (fault : Fault) : Option Mapper :=
  registry.mappers.find? (·.canHandle fault)

def lastResort (registry : Registry) : Mapper :=
  (registry.fallback.getLast registry.fallback_ne_nil).mapper

/-- The mapper for a fault; if none can handle it, the last resort. -/
def mapperFor (registry : Registry) (fault : Fault) : Mapper :=
  (registry.tryResolve fault).getD registry.lastResort

def resolve (registry : Registry) (fault : Fault) : Recorded Mapper := do
  match registry.tryResolve fault with
  | some mapper =>
    Recorded.log .debug "mapper resolved"
      [("mapper", .text mapper.name), ("kind", .text fault.kindName)]
  | none =>
    Recorded.log .error "no registered mapper accepts this fault; using lowest-priority fallback"
      [("kind", .text fault.kindName), ("mapper", .text registry.lastResort.name)]
  return registry.mapperFor fault

def mapFault (registry : Registry) (ctx : RequestContext) (fault : Fault) : Recorded Mapped := do
  (← registry.resolve fault).map ctx fault

end Registry
end Faultline
