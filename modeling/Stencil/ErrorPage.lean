import Stencil.Failure
import Stencil.Model

/-!
# The error page

The template of the built-in error page and the model that describes a failure to it.

## Main definitions

- `ErrorPage.source` — the page's template
- `ErrorPage.model` — title, message, kind, place and trace of a failure
-/

namespace Stencil

namespace ErrorPage

/-- The name that the page's template goes by. -/
def name : Text := "errorpage"

def sourceLines : List String := [
  "<!DOCTYPE html>",
  "<html>",
  "<head>",
  "    <meta charset=\"utf-8\">",
  "    <title>\x7b\x7b title | default(\"Internal Error\") \x7d\x7d</title>",
  "    <style>",
  "        body \x7b font-family: sans-serif; margin: 2em; color: #222; \x7d",
  "        h1 \x7b color: #b00020; \x7d",
  "        dl dt \x7b font-weight: bold; \x7d",
  "        pre \x7b background: #f5f5f5; padding: 1em; overflow-x: auto; \x7d",
  "    </style>",
  "</head>",
  "<body>",
  "    <h1>\x7b\x7b title | default(\"Internal Error\") \x7d\x7d</h1>",
  "    <p class=\"message\">\x7b\x7b message | default(\"An unexpected error occurred.\") \x7d\x7d</p>",
  "\x7b% if exception_type is defined and exception_type %\x7d",
  "    <dl>",
  "        <dt>Exception</dt>",
  "        <dd>\x7b\x7b exception_type \x7d\x7d</dd>",
  "\x7b% if template_name is defined and template_name %\x7d",
  "        <dt>Template</dt>",
  "        <dd>\x7b\x7b template_name \x7d\x7d\x7b% if line_number is defined and line_number %\x7d:" ++
    "\x7b\x7b line_number \x7d\x7d\x7b% endif %\x7d</dd>",
  "\x7b% endif %\x7d",
  "    </dl>",
  "\x7b% endif %\x7d",
  "\x7b% if stacktrace is defined and stacktrace %\x7d",
  "    <pre class=\"stacktrace\">\x7b\x7b stacktrace \x7d\x7d</pre>",
  "\x7b% endif %\x7d",
  "</body>",
  "</html>"]

/-- The template of the page. -/
def source : Text :=
  sourceLines.flatMap fun (line : String) => Text.ofString line ++ [Text.newline]

/-- The first text that is not empty. -/
def firstNonempty (texts : List Text) : Text :=
  (texts.find? (!·.isEmpty)).getD []

/-- The headline of a failure without one of its own. -/
def defaultTitle (f : Failure) : Text :=
  if f.kind = .notFound then "Template Not Found" else "Internal Error"

/-- The own text of a template problem, or else the message, or else the name of the kind. -/
def shownMessage (f : Failure) : Text :=
  let own : Text := if f.kind.isTemplate then f.problem.text.getD [] else []
  firstNonempty [own, f.message, f.kind.name]

/-- The model that the page shows a failure with; `trace` is the text of its stack trace. -/
def model (f : Failure) (title : Option Text) (trace : Text) : List (Text × Model) := [
  ("title", .str (firstNonempty [title.getD [], defaultTitle f])),
  ("message", .str (shownMessage f)),
  ("exception_type", .str ((f.kind.home : Text) ++ "." ++ f.kind.name)),
  ("template_name", .ofText? f.problem.template),
  ("line_number", .ofInt? f.problem.line),
  ("stacktrace", .str trace)]

end ErrorPage

end Stencil
