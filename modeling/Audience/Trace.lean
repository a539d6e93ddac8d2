import Audience.Json.Basic

/-!
# Tracing

Each request to the service runs under two identifiers: the correlation of a
whole session and the identifier of the request itself.  Outside a request both
are empty.
-/

namespace Audience

/-- The identifiers that a piece of work runs under. -/
structure Trace where
  correlation : String
  request : String
  deriving DecidableEq, Repr, Inhabited

namespace Trace

/-- Work outside any request. -/
def none : Trace := { correlation := "", request := "" }

/-- What is shown where an identifier is missing. -/
def unknown : String := "unknown"

/-- An identifier as it is shown. -/
def shown (identifier : String) : String :=
  if identifier = "" then unknown else identifier

/-- The correlation as it is shown. -/
def shownCorrelation (trace : Trace) : String := shown trace.correlation

/-- The request identifier as it is shown. -/
def shownRequest (trace : Trace) : String := shown trace.request

/-- The header that carries the correlation on. -/
def correlationHeader : String := "X-Correlation-ID"

/-- The headers sent along to the backend. -/
def headers (trace : Trace) : List (String × String) :=
  if trace.correlation = "" then []
  else [(correlationHeader, trace.correlation)]

/-- The identifier under which a problem can be found: that of the request, or
a fresh one when the request has none. -/
def problemId (trace : Trace) (fresh : String) : String :=
  if trace.shownRequest = unknown then fresh else trace.shownRequest

end Trace
end Audience
