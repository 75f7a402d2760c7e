import Retrieval.Text.Percent
import Retrieval.Url.DomainName
import Retrieval.Url.IpAddress

/-!
# Hosts

* `Host` : a name, or a network address;
* `Host.ofChars?` : the host of a scheme that the network knows: names are domain names;
* `Host.opaque?` : the host of any other scheme: names are encoded as they are;
* `Host.render` : the host as a URL shows it.
-/

namespace Retrieval.Url

/-- A name, or a network address. -/
inductive Host where
  | name (text : String)
  | address (ip : IpAddress)
deriving Repr, DecidableEq

namespace Host

def bracketed? (s : List Char) : Option Host :=
  match s.reverse with
  | ']' :: inner => (IpAddress.words? inner.reverse).map fun words => .address (.long words)
  | _ => none

/-- A domain name, which is an address if its last part is a number. -/
def ofDomain? (name : List Char) : Option Host :=
  if name = [] then none
  else if IpAddress.endsInNumber name then (IpAddress.number? name).map fun n => .address (.short n)
  else some (.name (.ofList name))

def ofChars? (s : List Char) : Option Host :=
  match s with
  | '[' :: rest => bracketed? rest
  | s => do
    let plain := s.all fun c => DomainName.isPlain c && c ≠ '%'
    let text ← if plain then some s
      else (Text.decode (Text.Percent.decode (Text.utf8 (.ofList s)))).map String.toList
    ofDomain? (← DomainName.ofChars? text)

def isForbidden (c : Char) : Bool := c.toNat == 0 || "\t\n\r #/:<>?@[\\]^|".toList.contains c

def opaque? (s : List Char) : Option Host :=
  match s with
  | '[' :: rest => bracketed? rest
  | s =>
    if s.any isForbidden then none
    else some (.name (.ofList (Text.Percent.encode (fun _ => false) s)))

def render : Host → String
  | .name text => text
  | .address ip => .ofList ip.render

end Host

end Retrieval.Url
