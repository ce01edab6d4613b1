import Stencil.Logging

/-!
# Notices

What the parts of the render pipeline report while they work. A notice says what happened; its record
is how the log shows it.

## Main definitions

- `Notice` — the events that are reported
- `Notice.record` — the log record of an event
-/

namespace Stencil

/-- An event of the render pipeline. -/
inductive Notice where
  | cacheHit (name : Text)
  | cacheMiss (name : Text)
  | evicted (name : Text)
  | invalidated (name : Text)
  /-- A template is about to be read. -/
  | fetching (name path : Text)
  | bytesRead (count : Nat) (path : Text)
  | compiled (name : Text) (static : Bool)
  | rendering (name : Text)
  /-- A request waits for a load that another one has started. -/
  | joined (name : Text)
  | loadFailed (name : Text) (failure : Failure)
  | renderFailed (name : Text) (failure : Failure)
  | pageFailed (failure : Failure)
  | serviceReady (templateDir : Text) (cacheSize : Nat) (static singleFlight : Bool)

namespace Notice

def logger : Notice → String
  | cacheHit _ | cacheMiss _ | evicted _ | invalidated _ => "templar.cache"
  | fetching .. => "templar.renderer"
  | bytesRead .. => "templar.storage.local"
  | compiled .. => "templar.compiler"
  | joined _ => "templar.flight"
  | rendering _ | loadFailed .. | renderFailed .. | pageFailed _ | serviceReady .. =>
    "templar.service"

def level : Notice → Int
  | loadFailed .. => Logging.warningLevel
  | renderFailed .. | pageFailed _ => Logging.errorLevel
  | _ => Logging.debugLevel

def flagText (b : Bool) : Text :=
  if b then "True" else "False"

/-- The message of an event; `elapsed` is how long a compilation took. -/
def message (elapsed : Text) : Notice → Text
  | cacheHit name => "Cache hit: " ++ name
  | cacheMiss name => "Cache miss: " ++ name
  | evicted name => "Evicted: " ++ name
  | invalidated name => "Invalidated: " ++ name
  | fetching name path => "Fetching " ++ name ++ " from " ++ path
  | bytesRead count path => "Read " ++ Text.ofNat count ++ " bytes from " ++ path
  | compiled name static =>
    "Compiled " ++ name ++ (if static then " (static) in " else " (dynamic) in " : Text) ++ elapsed
  | rendering name => "Rendering " ++ name
  | joined name => "Joining in-flight call for " ++ name
  | loadFailed name f => "Unable to load template " ++ name ++ ": " ++ f.message
  | renderFailed name f => "Failed to render template " ++ name ++ ": " ++ f.message
  | pageFailed f => "Failed to render error page: " ++ f.message
  | serviceReady dir size static single =>
    "Template service ready: dir=" ++ dir ++ " cache_size=" ++ Text.ofNat size ++ " static=" ++
      flagText static ++ " single_flight=" ++ flagText single

def record (elapsed : Text) (n : Notice) : LogRecord where
  logger := n.logger
  level := n.level
  message := n.message elapsed

end Notice

end Stencil
