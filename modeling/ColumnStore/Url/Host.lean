import ColumnStore.Url.Address
import ColumnStore.Url.Domain

/-! A host is a domain or a numeric address. What a domain amounts to decides which of the two it
is, so a number in other digits is a number as well.
-/

namespace ColumnStore.Url

def parseHost (cs : List Char) : Except UrlFault String :=
  match cs with
  | [] => .error .emptyHost
  | '[' :: rest =>
    if rest.getLast? = some ']' then
      match ipv6? rest.dropLast with
      | some groups => .ok ("[" ++ ipv6Text groups ++ "]")
      | none => .error .invalidIpv6
    else .error .invalidIpv6
  | cs => match domain? cs with
    | none => .error .invalidDomain
    | some [] => .error .emptyHost
    | some domain =>
      if endsInNumber domain then
        match ipv4? domain with
        | some n => .ok (ipv4Text n)
        | none => .error .invalidIpv4
      else .ok (String.ofList domain)

end ColumnStore.Url
