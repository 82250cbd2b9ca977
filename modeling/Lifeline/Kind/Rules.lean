import Lifeline.Kind.Pattern

/-! # The rules for kinds

The rules that guess the kind of a participant from its name, in the order in which they are
tried. The order matters: a name such as `Router` would also be taken for that of a person. -/

namespace Lifeline

/-- Names in -er and -or that belong to machines, ahead of the suffixes of people. -/
def agentRules : List (NamePattern × ParticipantKind) := [
  (.ends ["router"], .networking), (.ends ["balancer"], .networking),
  (.ends ["resolver"], .networking), (.ends ["limiter"], .networking),
  (.ends ["shaper"], .networking), (.ends ["scheduler"], .service), (.ends ["worker"], .service),
  (.ends ["handler"], .service), (.ends ["controller"], .service), (.ends ["manager"], .service),
  (.ends ["processor"], .service), (.ends ["dispatcher"], .service),
  (.ends ["listener"], .service), (.ends ["consumer"], .service), (.ends ["producer"], .service),
  (.ends ["subscriber"], .service), (.ends ["server"], .service), (.ends ["indexer"], .service),
  (.ends ["crawler"], .service), (.ends ["parser"], .service), (.ends ["logger"], .service),
  (.ends ["tracker"], .service), (.ends ["monitor"], .service), (.ends ["orchestrator"], .service),
  (.ends ["coordinator"], .service), (.ends ["validator"], .service),
  (.ends ["aggregator"], .service), (.ends ["collector"], .service),
  (.ends ["executor"], .service), (.ends ["authenticator"], .service),
  (.ends ["authorizer"], .service), (.ends ["emitter"], .service), (.ends ["adapter"], .service),
  (.ends ["compiler"], .service), (.ends ["transformer"], .service), (.ends ["loader"], .service),
  (.ends ["uploader"], .service), (.ends ["downloader"], .service), (.ends ["mailer"], .service),
  (.ends ["notifier"], .service), (.ends ["poller"], .service), (.ends ["runner"], .service),
  (.ends ["builder"], .service), (.ends ["exporter"], .service), (.ends ["importer"], .service),
  (.ends ["reconciler"], .service), (.ends ["generator"], .service),
  (.ends ["interceptor"], .service), (.ends ["detector"], .service),
  (.ends ["selector"], .service), (.ends ["container"], .service), (.ends ["cluster"], .service),
  (.ends ["docker"], .service), (.ends ["master"], .service), (.ends ["filter"], .service),
  (.ends ["timer"], .service), (.ends ["trigger"], .service), (.ends ["counter"], .service),
  (.ends ["helper"], .service), (.ends ["wrapper"], .service), (.ends ["mapper"], .service),
  (.ends ["layer"], .service), (.ends ["center"], .service), (.ends ["centre"], .service),
  (.ends ["order"], .service), (.ends ["broker"], .queue), (.ends ["publisher"], .queue),
  (.ends ["buffer"], .queue), (.ends ["ledger"], .database), (.ends ["folder"], .database),
  (.ends ["register"], .database), (.ends ["browser"], .frontend), (.ends ["renderer"], .frontend),
  (.is ["viewer"], .frontend), (.ends ["connector"], .external), (.ends ["vendor"], .external),
  (.ends ["provider"], .external), (.is ["auth0"], .external)]

/-- Networks and gateways. -/
def networkRules : List (NamePattern × ParticipantKind) := [
  (.is ["api"], .gateway), (.ends ["gateway"], .gateway), (.is ["gw"], .gateway),
  (.holds ["apigw"], .gateway), (.is ["kong"], .gateway), (.holds ["apigee"], .gateway),
  (.holds ["ingress"], .gateway), (.ends ["proxy"], .networking),
  (.is ["dns", "cdn", "vpn", "nat", "lb", "elb", "alb", "nlb"], .networking),
  (.ends ["cdn"], .networking), (.ends ["dns"], .networking), (.ends ["lb"], .networking),
  (.ends ["firewall"], .networking), (.ends ["waf"], .networking),
  (.holds ["egress"], .networking), (.ends ["mesh"], .networking), (.holds ["envoy"], .networking),
  (.holds ["nginx"], .networking), (.holds ["haproxy"], .networking),
  (.holds ["traefik"], .networking), (.holds ["istio"], .networking),
  (.holds ["cloudflare"], .networking), (.holds ["akamai"], .networking),
  (.holds ["fastly"], .networking), (.ends ["edge"], .networking),
  (.ends ["network"], .networking), (.ends ["vpc"], .networking), (.ends ["switch"], .networking),
  (.ends ["tunnel"], .networking), (.holds ["route53"], .networking)]

/-- Databases and other durable storage. -/
def storageRules : List (NamePattern × ParticipantKind) := [
  (.ends ["db"], .database), (.starts ["db"], .database), (.ends ["database"], .database),
  (.holds ["postgres"], .database), (.is ["pg"], .database), (.holds ["mysql"], .database),
  (.holds ["mariadb"], .database), (.holds ["mongo"], .database), (.holds ["dynamo"], .database),
  (.holds ["cassandra"], .database), (.holds ["oracle"], .database), (.ends ["sql"], .database),
  (.holds ["sqlite"], .database), (.holds ["aurora"], .database), (.holds ["spanner"], .database),
  (.holds ["bigquery"], .database), (.holds ["snowflake"], .database),
  (.holds ["redshift"], .database), (.holds ["cockroach"], .database),
  (.holds ["couch"], .database), (.holds ["neo4j"], .database), (.holds ["firestore"], .database),
  (.holds ["supabase"], .database), (.ends ["store"], .database), (.ends ["storage"], .database),
  (.ends ["repo"], .database), (.ends ["repository"], .database), (.ends ["warehouse"], .database),
  (.ends ["lake"], .database), (.ends ["table"], .database), (.ends ["bucket"], .database),
  (.ends ["s3"], .database), (.starts ["s3"], .database), (.holds ["blob"], .database),
  (.holds ["elastic"], .database), (.holds ["opensearch"], .database),
  (.holds ["solr"], .database), (.holds ["clickhouse"], .database), (.holds ["influx"], .database),
  (.holds ["timescale"], .database), (.ends ["archive"], .database),
  (.ends ["registry"], .database), (.ends ["catalog"], .database), (.ends ["records"], .database),
  (.ends ["index"], .database), (.ends ["vault"], .database)]

/-- Caches. -/
def cacheRules : List (NamePattern × ParticipantKind) := [
  (.ends ["cache"], .cache), (.starts ["cache"], .cache), (.holds ["redis"], .cache),
  (.holds ["memcache"], .cache), (.holds ["valkey"], .cache), (.holds ["hazelcast"], .cache),
  (.holds ["varnish"], .cache), (.holds ["keydb"], .cache), (.holds ["dragonfly"], .cache),
  (.holds ["ignite"], .cache)]

/-- Queues, streams and event buses. -/
def streamRules : List (NamePattern × ParticipantKind) := [
  (.ends ["queue"], .queue), (.starts ["queue"], .queue), (.holds ["sqs"], .queue),
  (.ends ["sns"], .queue), (.holds ["kafka"], .queue), (.holds ["rabbit"], .queue),
  (.ends ["mq"], .queue), (.holds ["activemq"], .queue), (.holds ["nats"], .queue),
  (.holds ["pulsar"], .queue), (.holds ["kinesis"], .queue), (.holds ["eventbus"], .queue),
  (.ends ["bus"], .queue), (.ends ["topic"], .queue), (.ends ["stream"], .queue),
  (.holds ["pubsub"], .queue), (.holds ["eventhub"], .queue), (.holds ["eventgrid"], .queue),
  (.ends ["channel"], .queue), (.ends ["inbox"], .queue), (.ends ["outbox"], .queue),
  (.ends ["mailbox"], .queue), (.ends ["pipeline"], .queue), (.holds ["celery"], .queue),
  (.holds ["sidekiq"], .queue), (.ends ["events"], .queue)]

/-- People: well-known names, then suffixes. -/
def peopleRules : List (NamePattern × ParticipantKind) := [
  (.is ["user", "users", "customer", "customers", "client", "admin", "administrator"], .actor),
  (.is ["alice", "bob", "carol", "charlie", "dave", "eve", "mallory", "trent", "peggy", "victor"],
    .actor),
  (.is ["operator", "developer", "dev", "person", "human", "guest", "visitor", "member"], .actor),
  (.is ["buyer", "seller", "merchant", "driver", "rider", "patient", "doctor", "nurse"], .actor),
  (.is ["student", "teacher", "employee", "agent", "reviewer", "approver", "owner", "player"],
    .actor), (.is ["shopper", "me", "you", "i", "someone", "actor", "staff", "support"], .actor),
  (.ends ["user"], .actor), (.ends ["customer"], .actor), (.ends ["admin"], .actor),
  (.ends ["person"], .actor), (.ends ["actor"], .actor), (.ends ["owner"], .actor),
  (.ends ["team"], .actor), (.ends ["staff"], .actor), (.ends ["ist"], .actor),
  (.ends ["ant"], .actor), (.ends ["er"], .actor), (.ends ["or"], .actor)]

/-- Frontends and client applications. -/
def clientRules : List (NamePattern × ParticipantKind) := [
  (.starts ["browser"], .frontend), (.ends ["ui"], .frontend), (.starts ["ui"], .frontend),
  (.ends ["frontend"], .frontend), (.holds ["front-end"], .frontend), (.ends ["web"], .frontend),
  (.holds ["webapp"], .frontend), (.ends ["app"], .frontend), (.holds ["mobile"], .frontend),
  (.ends ["ios"], .frontend), (.holds ["android"], .frontend), (.ends ["spa"], .frontend),
  (.ends ["portal"], .frontend), (.ends ["dashboard"], .frontend), (.ends ["console"], .frontend),
  (.ends ["cli"], .frontend), (.ends ["client"], .frontend), (.ends ["page"], .frontend),
  (.ends ["view"], .frontend), (.ends ["screen"], .frontend), (.ends ["widget"], .frontend),
  (.holds ["react"], .frontend), (.holds ["vue"], .frontend), (.holds ["angular"], .frontend),
  (.holds ["svelte"], .frontend), (.holds ["electron"], .frontend),
  (.holds ["desktop"], .frontend), (.ends ["extension"], .frontend),
  (.ends ["terminal"], .frontend), (.ends ["kiosk"], .frontend)]

/-- Services of the system itself. -/
def serviceRules : List (NamePattern × ParticipantKind) := [
  (.ends ["service"], .service), (.ends ["services"], .service), (.ends ["svc"], .service),
  (.starts ["svc"], .service), (.ends ["api"], .service), (.ends ["backend"], .service),
  (.holds ["back-end"], .service), (.holds ["microservice"], .service),
  (.holds ["lambda"], .service), (.ends ["functions", "function"], .service),
  (.ends ["jobs", "job"], .service), (.ends ["engine"], .service), (.ends ["core"], .service),
  (.ends ["auth"], .service), (.starts ["auth"], .service), (.ends ["iam"], .service),
  (.holds ["identity"], .service), (.holds ["billing"], .service),
  (.ends ["payments", "payment"], .service), (.ends ["search"], .service),
  (.ends ["notifications", "notification"], .service), (.ends ["daemon"], .service),
  (.ends ["cron"], .service), (.ends ["node"], .service), (.ends ["pod"], .service),
  (.ends ["host"], .service), (.ends ["instance"], .service), (.holds ["kubernetes"], .service),
  (.holds ["k8s"], .service), (.ends ["runtime"], .service), (.ends ["system"], .service),
  (.ends ["platform"], .service), (.ends ["module"], .service), (.ends ["component"], .service),
  (.ends ["logic"], .service), (.ends ["bot"], .service), (.ends ["ai"], .service),
  (.ends ["llm"], .service), (.ends ["model"], .service)]

/-- Systems of other parties. -/
def partnerRules : List (NamePattern × ParticipantKind) := [
  (.holds ["stripe"], .external), (.holds ["paypal"], .external), (.holds ["twilio"], .external),
  (.holds ["sendgrid"], .external), (.holds ["mailgun"], .external), (.holds ["okta"], .external),
  (.holds ["google"], .external), (.holds ["facebook"], .external), (.holds ["github"], .external),
  (.holds ["slack"], .external), (.holds ["salesforce"], .external),
  (.holds ["shopify"], .external), (.holds ["openai"], .external), (.holds ["plaid"], .external),
  (.holds ["adyen"], .external), (.holds ["braintree"], .external),
  (.holds ["segment"], .external), (.holds ["mixpanel"], .external),
  (.holds ["datadog"], .external), (.holds ["sentry"], .external),
  (.holds ["pagerduty"], .external), (.holds ["zendesk"], .external),
  (.holds ["hubspot"], .external), (.holds ["intercom"], .external),
  (.holds ["firebase"], .external), (.holds ["aws"], .external), (.holds ["azure"], .external),
  (.holds ["gcp"], .external), (.holds ["external"], .external),
  (.holds ["third-party", "thirdparty"], .external), (.holds ["3rd-party", "3rdparty"], .external),
  (.ends ["partner"], .external), (.ends ["saas"], .external), (.holds ["smtp"], .external),
  (.ends ["webhooks", "webhook"], .external), (.ends ["bank"], .external),
  (.holds ["oauth"], .external), (.ends ["idp"], .external), (.ends ["sso"], .external),
  (.holds ["apple"], .external), (.holds ["microsoft"], .external),
  (.holds ["dropbox"], .external), (.holds ["zoom"], .external), (.ends ["maps"], .external)]

/-- All rules, in the order in which they are tried. -/
def kindRules : List (NamePattern × ParticipantKind) :=
  agentRules ++ networkRules ++ storageRules ++ cacheRules ++ streamRules ++ peopleRules ++
    clientRules ++ serviceRules ++ partnerRules

/-- The kind that a name suggests: that of the first rule whose pattern it fits. -/
def inferKind (name : List Char) : ParticipantKind :=
  match kindRules.find? fun r => r.1.fits (Text.trim name) with
  | some r => r.2
  | none => .default

end Lifeline
