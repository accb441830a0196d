import Interpolation.Builtin.Group

/-!
# Methods for standard formats

Formatting and parsing of the forms that internet standards fix: addresses, locators, timestamps,
identifiers. Every group of the listing is a definition of its own.
-/

namespace Interpolation.Builtin.Rfc

/-- Email Formatting. -/
def email : Group where
  key := "email"
  title := "Email Formatting"
  description := "Methods for formatting and parsing email addresses according to RFC standards."
  methods := [
    method "format_email_rfc2822" "string"
      "Formats an email address according to RFC 2822."
      [positional "email_raw" "object" "The name of the email recipient."]
      [],
    method "parse_email_rfc2822" "array"
      "Parses an RFC 2822 formatted email address."
      [positional "email_str" "string" "The RFC 2822 formatted email address."]
      []]

/-- URL Formatting. -/
def url : Group where
  key := "url"
  title := "URL Formatting"
  description := "Methods for formatting and parsing URLs according to RFC 3986."
  methods := [
    method "format_url_rfc3986" "string"
      "Formats a URL according to RFC 3986."
      [
        positional "scheme" "string" "The URL scheme (e.g., 'http', 'https').",
        positional "netloc" "string" "The network location part of the URL.",
        positional "path" "string" "The path component of the URL.",
        positional "params" "string" "The parameters for the URL.",
        positional "query" "string" "The query string for the URL.",
        positional "fragment" "string" "The fragment identifier for the URL."]
      [],
    method "parse_url_rfc3986" "ParseResult"
      "Parses an RFC 3986 formatted URL."
      [positional "url" "string" "The RFC 3986 formatted URL."]
      []]

/-- Date/Time Formatting. -/
def datetime : Group where
  key := "datetime"
  title := "Date/Time Formatting"
  description := "Methods for formatting and parsing datetime objects according to RFC 3339."
  methods := [
    method "format_datetime_rfc3339" "string"
      "Formats a datetime object according to RFC 3339."
      [positional "dt" "datetime" "The datetime object to be formatted."]
      [],
    method "parse_datetime_rfc3339" "datetime"
      "Parses an RFC 3339 formatted datetime string."
      [positional "dt_str" "string" "The RFC 3339 formatted datetime string."]
      []]

/-- UUID Formatting. -/
def uuid : Group where
  key := "uuid"
  title := "UUID Formatting"
  description := "Methods for formatting and parsing UUIDs according to RFC 4122."
  methods := [
    method "format_uuid_rfc4122" "string"
      "Formats a UUID according to RFC 4122."
      []
      [],
    method "parse_uuid_rfc4122" "UUID"
      "Parses an RFC 4122 formatted UUID."
      [positional "uuid_str" "string" "The RFC 4122 formatted UUID."]
      []]

/-- DNS Formatting. -/
def dns : Group where
  key := "dns"
  title := "DNS Formatting"
  description := "Methods for formatting and parsing DNS records according to RFC 1035."
  methods := [
    method "format_dns_rfc1035" "string"
      "Formats a DNS record according to RFC 1035."
      [
        positional "name" "string" "The DNS record name.",
        positional "ttl" "integer" "The time-to-live value for the DNS record.",
        positional "record_class" "string" "The class of the DNS record (e.g., 'IN').",
        positional "record_type" "string" "The type of the DNS record (e.g., 'A', 'MX').",
        positional "data" "string" "The data for the DNS record."]
      [],
    method "parse_dns_rfc1035" "object"
      "Parses an RFC 1035 formatted DNS record."
      [positional "dns_str" "string" "The RFC 1035 formatted DNS record."]
      []]

/-- **The namespace `rfc`.** -/
def space : Namespace :=
  assemble "rfc" "RFC HELPERS"
    "Helpers for formatting and parsing data according to various RFC standards."
    [email, url, datetime, uuid, dns]

end Interpolation.Builtin.Rfc
