import PortfolioReports.Calendar.Moment
import PortfolioReports.Json.Basic

namespace PortfolioReports

open Calendar

/-- Spans of time in nanoseconds. Instants are counted from the start of a clock that ends after `2 ^ 63` seconds; no
span is meant to reach behind its end. -/
abbrev Span := Nat

def Span.ofSeconds (n : Nat) : Span := n * 1000000000

def Span.toSeconds (s : Span) : Nat := s / 1000000000

structure CacheConfig where
  defaultTtl : Span
  cleanupInterval : Span
  maxItems : Nat
deriving Repr

structure DashboardConfig where
  cache : CacheConfig
  summaryTtl : Span
  recentTtl : Span
  historicalTtl : Span
  activityLimit : Nat
  metrics : List String
  metricPeriod : String

namespace DashboardConfig

def defaultMetrics : List String :=
  ["credits_issued", "revenue", "verification_rate", "monitoring_coverage"]

def seriesTtl (c : DashboardConfig) (seriesEnd now : Moment) : Span :=
  if seriesEnd.le now.dayBefore then c.historicalTtl else c.recentTtl

def toJson (c : DashboardConfig) : Json :=
  let seconds (s : Span) : Json := .ofNat s.toSeconds
  .object
    [("default_ttl", seconds c.cache.defaultTtl), ("cleanup_interval", seconds c.cache.cleanupInterval),
     ("max_items", .ofNat c.cache.maxItems), ("summary_ttl", seconds c.summaryTtl),
     ("recent_ttl", seconds c.recentTtl), ("historical_ttl", seconds c.historicalTtl),
     ("activity_limit", .ofNat c.activityLimit), ("metrics", .texts c.metrics),
     ("metric_period", .text c.metricPeriod)]

end DashboardConfig

end PortfolioReports
