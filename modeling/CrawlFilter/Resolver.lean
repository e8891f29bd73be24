/-
Hosts and domains of URLs. A resolver answers two questions about a URL, and rules are compared with
its answers only. The resolver in use takes the host from the URL's text and the domain from the
host; an IP address is its own domain.
-/
import CrawlFilter.Address
import CrawlFilter.SuffixList
import CrawlFilter.Url

namespace CrawlFilter

/-- a URL that no domain can be derived from -/
structure MalformedUrl where
  url : Text
  deriving DecidableEq, Repr

def MalformedUrl.message (e : MalformedUrl) : Text :=
  "Malformed URL: ".toList ++ e.url

/-- what is known about the host of a URL -/
structure Resolver where
  host : Text → Option Text
  domain : Text → Except MalformedUrl Text

namespace Resolver

/-- the normalized host of a URL -/
def hostOf (url : Text) : Option Text :=
  (Url.host? url).map normalizeHost

/-- domain of a normalized host -/
def domainOfHost (suffixes : Option SuffixList) (host : Text) : Text :=
  if isAddress host then host else registrableDomain suffixes host

/-- domain of a URL whose host is not empty -/
def domainOf (suffixes : Option SuffixList) (url : Text) : Except MalformedUrl Text :=
  match hostOf url with
  | none | some [] => .error ⟨url⟩
  | some (c :: cs) => .ok (domainOfHost suffixes (c :: cs))

/-- the resolver that reads URLs, with or without a suffix list -/
def ofSuffixes (suffixes : Option SuffixList) : Resolver :=
  ⟨hostOf, domainOf suffixes⟩

/-- the resolver that answers the same for every URL -/
def fixed (host domain : Option Text) : Resolver :=
  ⟨fun _ => host, fun url => match domain with
    | some d => .ok d
    | none => .error ⟨url⟩⟩

end Resolver

end CrawlFilter
